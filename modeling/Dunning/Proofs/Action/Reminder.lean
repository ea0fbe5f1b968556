import Dunning.Action.Contact
import Dunning.Proofs.Timestamp.Text

/-!
# When a reminder is due

A payload asks for a delay by a whole number of hours under `delay_hours`, or by saying nothing,
which means a day (`Asks`). Two limits stand between that and a time: how long a span may be, and
how far the calendar goes (`Timestamp.InReach`). The second one moves with the clock. A delay within
both gives the time that is exactly so many hours later, and anything else is refused with the
reason (`schedules_scheduleReminder`).
-/

namespace Dunning

/-- A whole number that fits 64 bits is the only value that is read as one. -/
theorem Json.asInt64?_eq_some_iff {value : Json} {i : Int} :
    value.asInt64? = some i ↔ value = .num (.whole i) ∧ Decimal.fits64 i = true := by
  constructor
  · intro h
    unfold Json.asInt64? at h
    split at h
    · rename_i n
      split at h
      · rename_i hfits
        obtain rfl := Option.some.inj h
        exact ⟨rfl, hfits⟩
      · cases h
    · cases h
  · rintro ⟨rfl, hfits⟩
    simp only [Json.asInt64?, hfits, if_true]

namespace Action

/-- The delay in hours that `payload` asks for. -/
inductive Asks (payload : Json) : Nat → Prop where
  /-- Nothing is said under `delay_hours`. -/
  | nothing (h : payload.member? "delay_hours" = none) : Asks payload 24
  | null (h : payload.member? "delay_hours" = some .null) : Asks payload 24
  /-- A whole number that is not below zero and fits 64 bits with a sign. -/
  | hours {n : Nat} (h : payload.member? "delay_hours" = some (.num (.whole n)))
      (fits : n < 2 ^ 63) : Asks payload n

/-- What a reminder at `time` changes in the context `ctx`. -/
def reminderAt (time : Timestamp) (ctx : Context) : Fields Json :=
  Fields.ofList [("recordatorio_programado", .bool true), ("canal", .str (channel ctx)),
    ("recordatorio_en", .str time.offsetText)]

/-- The refusal of a reminder, for the reason in `message`. -/
def refusal (message : String) : Except ActionError (Fields Json) :=
  .error (.invalidPayload "enviar_recordatorio" message)

/-- What comes of asking for a reminder by `payload` when the clock says `now`. -/
structure Schedules (now : Timestamp) (payload : Json) (ctx : Context) : Prop where
  /-- There is a reminder exactly if a delay of `n` hours is asked for that is in reach. -/
  accepted_iff : (∃ changes, scheduleReminder now payload ctx = .ok changes) ↔
    ∃ n, Asks payload n ∧ now.InReach n
  /-- It is due at the one time on the clock that is exactly `n` hours later, no later than in the
  year 262142, and its text is read back as that time. -/
  due : ∀ n changes, Asks payload n → scheduleReminder now payload ctx = .ok changes →
    ∃! time : Timestamp, time.OnClock ∧
      time.instant = now.instant + Timestamp.nanosOfHours n ∧
      (Timestamp.dateOfDay time.day).1 ≤ 262142 ∧
      Timestamp.ofText? time.offsetText = some time ∧ changes = reminderAt time ctx
  /-- To say nothing of `delay_hours` is to ask for a day, which is accepted unless it leads past
  the calendar. -/
  nothing_iff : payload.member? "delay_hours" = none ∨ payload.member? "delay_hours" = some .null →
    ((∃ changes, scheduleReminder now payload ctx = .ok changes) ↔
      now.instant + Timestamp.nanosOfHours 24 < Timestamp.startOfYear 262143)
  /-- Any value but null and a whole number in bounds is refused: a number below zero or of 64 bits,
  a double, a text and all else. -/
  not_hours : ∀ value, payload.member? "delay_hours" = some value → value ≠ .null →
    (∀ n : Nat, n < 2 ^ 63 → value ≠ .num (.whole n)) →
      scheduleReminder now payload ctx = refusal "delay_hours must be a non-negative integer"
  /-- A delay that is out of reach is refused. -/
  out_of_reach : ∀ n, Asks payload n → ¬ now.InReach n →
    scheduleReminder now payload ctx = refusal s!"delay_hours {n} is out of range"
  /-- Where a delay is accepted, any shorter one is. -/
  shorter : ∀ n changes, Asks payload n → scheduleReminder now payload ctx = .ok changes →
    ∀ payload' ctx' fewer, Asks payload' fewer → fewer ≤ n →
      ∃ changes', scheduleReminder now payload' ctx' = .ok changes'

variable {now : Timestamp} {payload : Json} {ctx : Context} {n : Nat}

/-! ## The delay -/

theorem hours_eq_some_iff {value : Json} :
    (value.asInt64?.filter (0 ≤ ·)).map Int.toNat = some n ↔
      value = .num (.whole n) ∧ n < 2 ^ 63 := by
  simp only [Option.map_eq_some_iff, Option.filter_eq_some_iff, Json.asInt64?_eq_some_iff,
    decide_eq_true_eq, Decimal.fits64, Bool.and_eq_true]
  constructor
  · rintro ⟨i, ⟨⟨rfl, _, hlt⟩, hnonneg⟩, rfl⟩
    have hcast : ((i.toNat : Nat) : Int) = i := by omega
    exact ⟨by rw [hcast], by omega⟩
  · rintro ⟨rfl, hlt⟩
    exact ⟨n, ⟨⟨rfl, by omega, by omega⟩, by omega⟩, by omega⟩

/-- `delayHours?` reads the delay that is asked for. -/
theorem delayHours?_eq_some_iff : delayHours? payload = some n ↔ Asks payload n := by
  unfold delayHours?
  constructor
  · intro h
    split at h
    case h_1 habsent =>
      obtain rfl := Option.some.inj h
      exact .nothing habsent
    case h_2 hnull =>
      obtain rfl := Option.some.inj h
      exact .null hnull
    case h_3 value _ hvalue =>
      obtain ⟨rfl, fits⟩ := hours_eq_some_iff.1 h
      exact .hours hvalue fits
  · intro h
    cases h with
    | nothing habsent =>
      rw [habsent]
      rfl
    | null hnull =>
      rw [hnull]
      rfl
    | hours hvalue fits =>
      rw [hvalue]
      exact hours_eq_some_iff.2 ⟨rfl, fits⟩

/-- Another value than null and a whole number in bounds is no delay. -/
theorem not_asks_of_member {value : Json} (hvalue : payload.member? "delay_hours" = some value)
    (hnull : value ≠ .null) (hhours : ∀ n : Nat, n < 2 ^ 63 → value ≠ .num (.whole n)) (n : Nat) :
    ¬ Asks payload n := by
  intro h
  cases h with
  | nothing habsent =>
    rw [hvalue] at habsent
    cases habsent
  | null h =>
    rw [hvalue] at h
    exact hnull (Option.some.inj h)
  | hours h fits =>
    rw [hvalue] at h
    exact hhours n fits (Option.some.inj h)

/-! ## The answer -/

theorem scheduleReminder_of_not_asks (h : ∀ n, ¬ Asks payload n) :
    scheduleReminder now payload ctx = refusal "delay_hours must be a non-negative integer" := by
  have hnone : delayHours? payload = none := by
    rw [Option.eq_none_iff_forall_ne_some]
    exact fun n hn => h n (delayHours?_eq_some_iff.1 hn)
  simp only [scheduleReminder, hnone]
  rfl

theorem Asks.scheduleReminder_of_none (h : Asks payload n) (hnone : now.addHours? n = none) :
    scheduleReminder now payload ctx = refusal s!"delay_hours {n} is out of range" := by
  simp only [scheduleReminder, delayHours?_eq_some_iff.2 h, hnone]
  rfl

theorem Asks.scheduleReminder_of_some {time : Timestamp} (h : Asks payload n)
    (htime : now.addHours? n = some time) :
    scheduleReminder now payload ctx = .ok (reminderAt time ctx) := by
  simp only [scheduleReminder, delayHours?_eq_some_iff.2 h, htime]
  rfl

/-- A delay that is asked for is accepted exactly if it is `InReach`. -/
theorem Asks.exists_ok_iff (h : Asks payload n) (hnow : now.OnClock) :
    (∃ changes, scheduleReminder now payload ctx = .ok changes) ↔ now.InReach n := by
  constructor
  · rintro ⟨changes, hok⟩
    by_contra hreach
    rw [h.scheduleReminder_of_none (hnow.addHours?_eq_none hreach)] at hok
    cases hok
  · intro hreach
    obtain ⟨time, htime, -, -⟩ := hnow.exists_addHours? hreach
    exact ⟨_, h.scheduleReminder_of_some htime⟩

/-- Only a payload that asks for a delay is accepted. -/
theorem exists_asks_of_ok {changes : Fields Json}
    (h : scheduleReminder now payload ctx = .ok changes) : ∃ n, Asks payload n := by
  by_contra hnone
  rw [scheduleReminder_of_not_asks (not_exists.1 hnone)] at h
  cases h

/-- A day is never too long a span, so only the calendar stands in its way. -/
theorem inReach_day_iff :
    now.InReach 24 ↔ now.instant + Timestamp.nanosOfHours 24 < Timestamp.startOfYear 262143 :=
  ⟨fun h => h.date, fun h => ⟨by decide, h⟩⟩

/-- A reminder is scheduled exactly for a delay that is in reach, and for the time that is so many
hours later. -/
theorem schedules_scheduleReminder (hnow : now.OnClock) (payload : Json) (ctx : Context) :
    Schedules now payload ctx where
  accepted_iff := by
    constructor
    · rintro ⟨changes, hok⟩
      obtain ⟨n, hn⟩ := exists_asks_of_ok hok
      exact ⟨n, hn, (hn.exists_ok_iff hnow).1 ⟨changes, hok⟩⟩
    · rintro ⟨n, hn, hreach⟩
      exact (hn.exists_ok_iff hnow).2 hreach
  due := by
    intro n changes hn hok
    have hreach := (hn.exists_ok_iff hnow).1 ⟨changes, hok⟩
    obtain ⟨time, htime, hclock, hinstant⟩ := hnow.exists_addHours? hreach
    rw [hn.scheduleReminder_of_some htime] at hok
    -- in reach means before the year after the last one, and the date says no other year
    have hyear : (Timestamp.dateOfDay time.day).1 < 262143 := by
      rw [← hclock.instant_lt_startOfYear_iff, hinstant]
      exact hreach.date
    refine ⟨time, ⟨hclock, hinstant, Int.lt_add_one_iff.1 hyear, hclock.ofText?_offsetText,
      (Except.ok.inj hok).symm⟩, ?_⟩
    rintro other ⟨hother, hsame, -⟩
    exact hother.eq_of_instant hclock (hsame.trans hinstant.symm)
  nothing_iff := by
    rintro (habsent | hnull)
    · exact ((Asks.nothing habsent).exists_ok_iff hnow).trans inReach_day_iff
    · exact ((Asks.null hnull).exists_ok_iff hnow).trans inReach_day_iff
  not_hours := by
    intro value hvalue hnull hhours
    exact scheduleReminder_of_not_asks (not_asks_of_member hvalue hnull hhours)
  out_of_reach n hn hreach := hn.scheduleReminder_of_none (hnow.addHours?_eq_none hreach)
  shorter := by
    intro n changes hn hok payload' ctx' fewer hfewer hle
    have hreach := (hn.exists_ok_iff hnow).1 ⟨changes, hok⟩
    exact (hfewer.exists_ok_iff hnow).2 (hreach.mono hle)

/-- At noon of the last day a reminder can be set for an hour before midnight, and no day ahead. -/
theorem schedules_on_last_day :
    let now : Timestamp := ⟨Timestamp.lastDay, 43200, 0⟩
    let payload := Json.obj [("delay_hours", .num (.whole 11))]
    now.OnClock ∧ Schedules now payload ∅ ∧
    scheduleReminder now payload ∅ = .ok [("canal", .str "whatsapp"),
      ("recordatorio_en", .str "+262142-12-31T23:00:00+00:00"),
      ("recordatorio_programado", .bool true)] ∧
    Schedules now .null ∅ ∧
    scheduleReminder now .null ∅ =
      .error (.invalidPayload "enviar_recordatorio" "delay_hours 24 is out of range") := by
  intro now payload
  have hnow : now.OnClock := by
    constructor <;> decide
  have heleven : Asks payload 11 := .hours rfl (by decide)
  have htime : now.addHours? 11 = some ⟨Timestamp.lastDay, 82800, 0⟩ := by decide
  have htext : Timestamp.offsetText ⟨Timestamp.lastDay, 82800, 0⟩ =
      "+262142-12-31T23:00:00+00:00" := by decide +kernel
  have hday : now.addHours? 24 = none := by decide
  refine ⟨hnow, schedules_scheduleReminder hnow payload ∅, ?_,
    schedules_scheduleReminder hnow .null ∅, ?_⟩
  · rw [heleven.scheduleReminder_of_some htime, reminderAt, htext]
    rfl
  · exact Asks.scheduleReminder_of_none (.nothing rfl) hday

end Action

end Dunning
