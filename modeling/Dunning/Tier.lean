/-!
# Decision tiers

Which stage of the classification decided what a message means, and what the cache in front of it
reports.
-/

namespace Dunning

/-- A stage of the classification. -/
inductive Tier where
  /-- Fixed rules. -/
  | rule
  /-- The trained classifier. -/
  | ml
  /-- The general service behind it. -/
  | fallback
  /-- An earlier answer, used again. -/
  | cache
deriving DecidableEq, Repr

namespace Tier

/-- All tiers, in the order of tables, which is that of `index`. -/
def all : List Tier := [rule, ml, fallback, cache]

/-- The name in records. -/
def tag : Tier → String
  | rule => "RULE"
  | ml => "ML"
  | fallback => "FALLBACK"
  | cache => "CACHE"

/-- The name for display. -/
def label : Tier → String
  | rule => "rule"
  | ml => "ml"
  | fallback => "fallback"
  | cache => "cache"

/-- The position in tables. -/
def index : Tier → Nat
  | rule => 0
  | ml => 1
  | fallback => 2
  | cache => 3

/-- The tier with a given `tag`. -/
def ofTag? (s : String) : Option Tier :=
  all.find? fun t => t.tag = s

@[simp] theorem ofTag?_tag (t : Tier) : ofTag? t.tag = some t := by
  cases t <;> decide

end Tier

/-- Something that happened in the cache. -/
inductive CacheEvent where
  | hit
  | miss
  | eviction
deriving DecidableEq, Repr

namespace CacheEvent

/-- All events, in the order in which `ofTag?` looks. -/
def all : List CacheEvent := [hit, miss, eviction]

/-- The name of the event. -/
def tag : CacheEvent → String
  | hit => "hit"
  | miss => "miss"
  | eviction => "eviction"

/-- The event with a given `tag`. -/
def ofTag? (s : String) : Option CacheEvent :=
  all.find? fun e => e.tag = s

end CacheEvent

end Dunning
