import Dunning.Monitor.Window
import Dunning.Timestamp

/-!
# Alerts

An alert is recorded unless one of its kind is already among the latest alerts. The log keeps the
last thousand of them.
-/

namespace Dunning

/-- What an alert is about. -/
inductive AlertKind where
  | highResponseTime
  | highErrorRate
  | lowMlConfidence
  | lowCacheHitRate
deriving DecidableEq, Repr

namespace AlertKind

/-- All kinds, in the order in which `Monitor.checkAlerts` takes them. -/
def all : List AlertKind :=
  [highResponseTime, highErrorRate, lowMlConfidence, lowCacheHitRate]

/-- The name in records. -/
def tag : AlertKind → String
  | highResponseTime => "HIGH_RESPONSE_TIME"
  | highErrorRate => "HIGH_ERROR_RATE"
  | lowMlConfidence => "LOW_ML_CONFIDENCE"
  | lowCacheHitRate => "LOW_CACHE_HIT_RATE"

/-- The kind with a given `tag`. -/
def ofTag? (s : String) : Option AlertKind :=
  all.find? fun k => k.tag = s

end AlertKind

/-- A recorded alert. -/
structure Alert where
  kind : AlertKind
  message : String
  time : Timestamp
deriving DecidableEq, Repr

/-- The alerts recorded so far, oldest first; `dedupWindow` is how many of them a new one is
compared with. -/
structure AlertLog where
  dedupWindow : Nat
  alerts : List Alert

namespace AlertLog

/-- The number of alerts that `raise` keeps. -/
def maxHistory : Nat := 1000

/-- A log without alerts. -/
def empty (dedupWindow : Nat) : AlertLog := ⟨dedupWindow, []⟩

/-- Whether an alert of `kind` is among the last `dedupWindow` ones. -/
def isRecent (log : AlertLog) (kind : AlertKind) : Bool :=
  (lastN log.dedupWindow log.alerts).any fun a => a.kind = kind

/-- Records `alert` unless one of its kind `isRecent`; returns it if it was recorded. -/
def raise (log : AlertLog) (alert : Alert) : AlertLog × Option Alert :=
  if log.isRecent alert.kind then (log, none)
  else ({ log with alerts := lastN maxHistory (log.alerts ++ [alert]) }, some alert)

/-- The last `n` alerts, oldest first. -/
def recent (log : AlertLog) (n : Nat) : List Alert :=
  lastN n log.alerts

/-- Forgets all alerts. -/
def clear (log : AlertLog) : AlertLog :=
  { log with alerts := [] }

end AlertLog

end Dunning
