import Dunning.Timestamp
import Mathlib.Algebra.Group.Nat.Defs

/-!
# The calendar and the clock

A year that begins in March has its leap day at its end, so the day on which it begins is a sum of
floors (`firstOfMarch`), and within it the months follow one rule (`dateInYear`). Every day number
is a day of one such year: that is what its date says, and from the date the day number comes back
(`dayOfDate_dateOfDay`). The years follow each other without gap, so a bound on the year is a bound
on the day.

A clock shows a second of a day and a fraction of it, and the nanoseconds since the beginning of
1970 (`Timestamp.instant`) determine all of it. Adding hours goes wrong only past the longest span
and past the last year.
-/

namespace Dunning.Timestamp

/-! ## Days of an era of 400 years -/

/-- The days of an era before its year `year`. -/
def daysBefore (year : Nat) : Nat :=
  365 * year + year / 4 - year / 100

/-- The year of an era that its day `day` belongs to. -/
def yearOfEra (day : Nat) : Nat :=
  (day - day / 1460 + day / 36524 - day / 146096) / 365

/-- A day of an era lies in its year, `yearOfEra`. -/
theorem yearOfEra_bounds {day : Nat} (h : day < 146097) :
    yearOfEra day < 400 ∧ daysBefore (yearOfEra day) ≤ day ∧
      day ≤ daysBefore (yearOfEra day) + 365 := by
  by_cases hlast : day = 146096
  · -- the leap day that ends the era
    subst hlast
    decide
  have hera : day / 146096 = 0 := by omega
  obtain ⟨quad, hquad⟩ : ∃ q, q = day / 1460 := ⟨_, rfl⟩
  obtain ⟨century, hcentury⟩ : ∃ c, c = day / 36524 := ⟨_, rfl⟩
  obtain ⟨year, hyear⟩ : ∃ y, y = yearOfEra day := ⟨_, rfl⟩
  have hquot : year = (day - quad + century) / 365 := by
    rw [hyear, yearOfEra, hera, hquad, hcentury, Nat.sub_zero]
  have hle : quad ≤ day := by omega
  -- the century of the day is that of the year; of groups of four years the day may have counted
  -- one more than the year, but no more
  have hstart : 25 * century ≤ quad := by omega
  have hsame : year / 100 = century := by omega
  have hbelow : year / 4 ≤ quad := by omega
  have habove : quad ≤ year / 4 + 1 := by omega
  rw [← hyear, daysBefore, hsame]
  omega

/-! ## Years that begin in March -/

/-- The day number of 1 March of `year`. -/
def firstOfMarch (year : Int) : Int :=
  365 * year + year / 4 - year / 100 + year / 400 - 719468

/-- The date of the day `day`, counted from zero, of the year that begins in March of `year`. -/
def dateInYear (year : Int) (day : Nat) : Int × Nat × Nat :=
  let shifted := (5 * day + 2) / 153
  let month := if shifted < 10 then shifted + 3 else shifted - 9
  (year + (if month ≤ 2 then 1 else 0), month, day - (153 * shifted + 2) / 5 + 1)

theorem firstOfMarch_era (era : Int) {year : Nat} (h : year < 400) :
    firstOfMarch (era * 400 + year) = era * 146097 + daysBefore year - 719468 := by
  unfold firstOfMarch daysBefore
  omega

/-- `dateOfDay` says which day of which year it is. -/
theorem exists_dateOfDay (n : Int) : ∃ (year : Int) (day : Nat), day ≤ 365 ∧
    n = firstOfMarch year + day ∧ dateOfDay n = dateInYear year day := by
  obtain ⟨era, hera⟩ : ∃ e, e = (n + 719468).fdiv 146097 := ⟨_, rfl⟩
  obtain ⟨doe, hdoe⟩ : ∃ d, d = (n + 719468 - era * 146097).toNat := ⟨_, rfl⟩
  have hfloor : era = (n + 719468) / 146097 := by
    rw [hera, Int.fdiv_eq_ediv_of_nonneg _ (by decide)]
  have hlt : doe < 146097 := by omega
  have hcast : (doe : Int) = n + 719468 - era * 146097 := by omega
  obtain ⟨hyear, hstart, hend⟩ := yearOfEra_bounds hlt
  refine ⟨era * 400 + yearOfEra doe, doe - daysBefore (yearOfEra doe), ?_, ?_, ?_⟩
  · omega
  · rw [firstOfMarch_era era hyear]
    omega
  · have hcomm : (yearOfEra doe : Int) + era * 400 = era * 400 + yearOfEra doe := by omega
    rw [dateInYear, ← hcomm]
    subst hdoe hera
    rfl

theorem dayOfDate_eq (year : Int) (month day : Nat) :
    dayOfDate year month day =
      firstOfMarch (if month ≤ 2 then year - 1 else year) +
        ((153 * (if month ≤ 2 then month + 9 else month - 3) + 2) / 5 : Nat) + day - 1 := by
  simp only [dayOfDate, firstOfMarch, Int.fdiv_eq_ediv_of_nonneg _ (by decide : (0 : Int) ≤ 400),
    Int.fdiv_eq_ediv_of_nonneg _ (by decide : (0 : Int) ≤ 100),
    Int.fdiv_eq_ediv_of_nonneg _ (by decide : (0 : Int) ≤ 4)]
  split <;> omega

/-- The day `day` of a year that begins in March has a month and a day of the month, and they say
which day of the year it is. -/
theorem dateInYear_spec (year : Int) {day : Nat} (h : day ≤ 365) :
    let date := dateInYear year day
    1 ≤ date.2.1 ∧ date.2.1 ≤ 12 ∧ 1 ≤ date.2.2 ∧ date.2.2 ≤ 31 ∧
      dayOfDate date.1 date.2.1 date.2.2 = firstOfMarch year + day := by
  obtain ⟨shifted, hshifted⟩ : ∃ m, m = (5 * day + 2) / 153 := ⟨_, rfl⟩
  have hmonths : shifted ≤ 11 := by omega
  simp only [dateInYear, ← hshifted]
  -- the first ten months belong to the year in which they begin, the other two to the next
  by_cases hspring : shifted < 10
  · have hmonth : ¬ shifted + 3 ≤ 2 := by omega
    simp only [if_pos hspring, if_neg hmonth, dayOfDate_eq, Int.add_zero]
    refine ⟨?_, ?_, ?_, ?_, ?_⟩ <;> omega
  · have hmonth : shifted - 9 ≤ 2 := by omega
    have hyear : year + 1 - 1 = year := by omega
    simp only [if_neg hspring, if_pos hmonth, dayOfDate_eq, hyear]
    refine ⟨?_, ?_, ?_, ?_, ?_⟩ <;> omega

/-- January and February belong to the next year. -/
theorem year_dateInYear (year : Int) {day : Nat} (h : day ≤ 365) :
    (dateInYear year day).1 = year + (if day < 306 then 0 else 1) := by
  unfold dateInYear
  by_cases hspring : day < 306
  · have hshifted : (5 * day + 2) / 153 < 10 := by omega
    simp [hspring, hshifted]
  · have hshifted : ¬ (5 * day + 2) / 153 < 10 := by omega
    have hmonth : (5 * day + 2) / 153 - 9 ≤ 2 := by omega
    simp [hspring, hshifted, hmonth]

/-! ## Dates -/

/-- The date of the day `n` names that day. -/
theorem dayOfDate_dateOfDay (n : Int) :
    dayOfDate (dateOfDay n).1 (dateOfDay n).2.1 (dateOfDay n).2.2 = n := by
  obtain ⟨year, day, hday, hn, hdate⟩ := exists_dateOfDay n
  obtain ⟨-, -, -, -, hback⟩ := dateInYear_spec year hday
  rw [hdate, hn]
  exact hback

theorem dateOfDay_bounds (n : Int) :
    1 ≤ (dateOfDay n).2.1 ∧ (dateOfDay n).2.1 ≤ 12 ∧
      1 ≤ (dateOfDay n).2.2 ∧ (dateOfDay n).2.2 ≤ 31 := by
  obtain ⟨year, day, hday, -, hdate⟩ := exists_dateOfDay n
  obtain ⟨hmonth, hmonths, hfirst, hdays, -⟩ := dateInYear_spec year hday
  rw [hdate]
  exact ⟨hmonth, hmonths, hfirst, hdays⟩

/-- The date of the day `n` is on the calendar. -/
theorem isDate_dateOfDay (n : Int) :
    isDate (dateOfDay n).1 (dateOfDay n).2.1 (dateOfDay n).2.2 = true := by
  have hback := dayOfDate_dateOfDay n
  have hbounds := dateOfDay_bounds n
  simp [isDate, hback, hbounds]

/-- A day `n` belongs to an earlier year exactly if it comes before `year` begins. -/
theorem year_dateOfDay_lt_iff {n year : Int} :
    (dateOfDay n).1 < year ↔ n < dayOfDate year 1 1 := by
  obtain ⟨march, day, hday, hn, hdate⟩ := exists_dateOfDay n
  -- 1 January is day 306 of the year that began in March before it
  have hjanuary : dayOfDate year 1 1 = firstOfMarch (year - 1) + 306 := by
    rw [dayOfDate_eq]
    simp
  rw [hdate, year_dateInYear march hday, hjanuary, hn]
  unfold firstOfMarch
  split <;> omega

/-- `lastDay` is the last one of its year. -/
theorem dayOfDate_succ_lastYear : dayOfDate 262143 1 1 = lastDay + 1 := by decide

/-! ## The clock -/

/-- A time that a clock shows: a day of the calendar, a second of the day and a fraction of that
second. No clock shows a leap second. -/
structure OnClock (t : Timestamp) : Prop where
  first : firstDay ≤ t.day
  last : t.day ≤ lastDay
  second : t.second < 86400
  nano : t.nano < 1000000000

/-- Nanoseconds since the beginning of 1970, on the clock that shows `t`. -/
def instant (t : Timestamp) : Int :=
  (t.day * 86400 + t.second) * 1000000000 + t.nano

/-- The nanoseconds of `n` hours. -/
def nanosOfHours (n : Nat) : Int :=
  n * 3600000000000

/-- The instant at which `year` begins. -/
def startOfYear (year : Int) : Int :=
  dayOfDate year 1 1 * 86400000000000

/-- The `n` hours that can be added to `now`: as milliseconds they fit 63 bits, and they do not lead
past the end of the year 262142. -/
structure InReach (now : Timestamp) (n : Nat) : Prop where
  span : n * 3600000 < 2 ^ 63
  date : now.instant + nanosOfHours n < startOfYear 262143

variable {now t u : Timestamp} {n : Nat}

/-- No two times `OnClock` are the same instant. -/
theorem OnClock.eq_of_instant (ht : t.OnClock) (hu : u.OnClock) (h : t.instant = u.instant) :
    t = u := by
  -- day, second and nanosecond are the digits of the instant, so its quotients give them back
  obtain ⟨-, -, htsecond, htnano⟩ := ht
  obtain ⟨-, -, husecond, hunano⟩ := hu
  cases t with
  | mk tday tsecond tnano =>
  cases u with
  | mk uday usecond unano =>
  simp only [instant] at h htsecond htnano husecond hunano
  have hday : tday = uday := by omega
  have hsecond : tsecond = usecond := by omega
  have hnano : tnano = unano := by omega
  rw [hday, hsecond, hnano]

/-- A time comes before `year` begins exactly if its date is of an earlier year. -/
theorem OnClock.instant_lt_startOfYear_iff (h : t.OnClock) {year : Int} :
    t.instant < startOfYear year ↔ (dateOfDay t.day).1 < year := by
  obtain ⟨-, -, hsecond, hnano⟩ := h
  rw [year_dateOfDay_lt_iff, instant, startOfYear]
  omega

/-- The hours are `InReach` exactly if neither the span nor the day is too far. -/
theorem OnClock.inReach_iff (h : now.OnClock) :
    now.InReach n ↔ n * 3600 ≤ longestSpan ∧
      now.day + ((now.second + n * 3600) / 86400 : Nat) ≤ lastDay := by
  have hspan : n * 3600000 < 2 ^ 63 ↔ n * 3600 ≤ longestSpan := by
    unfold longestSpan
    omega
  have hdate : now.instant + nanosOfHours n < startOfYear 262143 ↔
      now.day + ((now.second + n * 3600) / 86400 : Nat) ≤ lastDay := by
    -- the fraction of the second stays below a second, so only whole seconds count
    have hnano := h.nano
    rw [startOfYear, dayOfDate_succ_lastYear, instant, nanosOfHours]
    omega
  rw [← hspan, ← hdate]
  exact ⟨fun h => ⟨h.span, h.date⟩, fun h => ⟨h.1, h.2⟩⟩

/-- Hours that are in reach can be added by `addHours?`, and give the time that is exactly so many
hours later. -/
theorem OnClock.exists_addHours? (h : now.OnClock) (hreach : now.InReach n) :
    ∃ t, now.addHours? n = some t ∧ t.OnClock ∧ t.instant = now.instant + nanosOfHours n := by
  obtain ⟨hspan, hday⟩ := h.inReach_iff.1 hreach
  have hfirst := h.first
  refine ⟨⟨now.day + ((now.second + n * 3600) / 86400 : Nat), (now.second + n * 3600) % 86400,
    now.nano⟩, ?_, ⟨?_, hday, ?_, h.nano⟩, ?_⟩
  · simp only [addHours?, if_neg (Nat.not_lt.2 hspan), if_neg (Int.not_lt.2 hday)]
  · show firstDay ≤ now.day + ((now.second + n * 3600) / 86400 : Nat)
    omega
  · exact Nat.mod_lt _ (by decide)
  · simp only [instant, nanosOfHours]
    omega

/-- Hours that are out of reach cannot be added by `addHours?`. -/
theorem OnClock.addHours?_eq_none (h : now.OnClock) (hreach : ¬ now.InReach n) :
    now.addHours? n = none := by
  rw [h.inReach_iff] at hreach
  unfold addHours?
  by_cases hspan : longestSpan < n * 3600
  · exact if_pos hspan
  · have hday : lastDay < now.day + ((now.second + n * 3600) / 86400 : Nat) := by omega
    simp only [if_neg hspan, if_pos hday]

/-- Fewer hours are `InReach` if more are. -/
theorem InReach.mono {fewer : Nat} (h : now.InReach n) (hle : fewer ≤ n) : now.InReach fewer := by
  have hnanos : nanosOfHours fewer ≤ nanosOfHours n := by
    unfold nanosOfHours
    omega
  exact {
    span := Nat.lt_of_le_of_lt (Nat.mul_le_mul_right 3600000 hle) h.span
    date := Int.lt_of_le_of_lt (Int.add_le_add_left hnanos _) h.date }

end Dunning.Timestamp
