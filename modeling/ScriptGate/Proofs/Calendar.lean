import Mathlib.Algebra.GroupWithZero.Nat
import ScriptGate.Calendar

/-!
# `ScriptGate.Proofs.Calendar`: dates in the order of time

A date has two numbers. `Date.dayNumber` counts the days up to it by the
leap-year rule, and `Date.number` is what its eight digits denote. The
dates that `Date.ofDays` gives are dates of the calendar, and
`Date.dayNumber` takes them back to their days (`Date.ofDays_spec`).

Both numbers order the dates of the calendar by year, month and day: a
year begins after all days of the years before it, and a month after all
days of the months before it. So the digits go up with the days, and
together with the time of day they go up with the seconds
(`DateTime.number_lt_iff`).
-/

set_option autoImplicit false

namespace ScriptGate.Calendar

/-! ### Years -/

/-- The days before a year: 365 for each of the years before it, and one
more for those of them that have a leap day. -/
def daysBeforeYear (year : Int) : Int :=
  365 * (year - 1) + (year - 1) / 4 - (year - 1) / 100 + (year - 1) / 400

/-- The days of a year. -/
def yearLength (year : Int) : Nat := (monthLengths (isLeapYear year)).sum

/-- The rule of the leap years: every fourth, of the centuries only every
fourth. -/
theorem isLeapYear_iff (year : Int) :
    isLeapYear year = true ↔ year % 4 = 0 ∧ (year % 100 ≠ 0 ∨ year % 400 = 0) := by
  simp only [isLeapYear, Bool.and_eq_true, Bool.or_eq_true, beq_iff_eq, bne_iff_ne]

/-- A leap year is one day longer than the others. -/
theorem yearLength_eq (year : Int) :
    yearLength year = if isLeapYear year then 366 else 365 := by
  rw [yearLength]
  cases isLeapYear year with
  | false => rfl
  | true => rfl

/-- After a year, its own days are before the next one. -/
theorem daysBeforeYear_succ (year : Int) :
    daysBeforeYear (year + 1) = daysBeforeYear year + yearLength year := by
  have hleap := isLeapYear_iff year
  -- A quotient goes up in the years that it divides.
  rw [yearLength_eq, daysBeforeYear, daysBeforeYear]
  split
  · rename_i h
    have hyear := hleap.mp h
    omega
  · rename_i h
    have hyear := mt hleap.mpr h
    omega

/-- Later years begin later. -/
theorem daysBeforeYear_mono {a b : Int} (h : a ≤ b) : daysBeforeYear a ≤ daysBeforeYear b := by
  rw [daysBeforeYear, daysBeforeYear]
  omega

/-- The days before a year that is given by its place in the cycles. A
century is a day short of its fours, unless it is the last one. -/
theorem daysBeforeYear_cycles {n400 n100 n4 n1 : Int} (h100 : 0 ≤ n100 ∧ n100 ≤ 3)
    (h4 : 0 ≤ n4 ∧ n4 ≤ 24) (h1 : 0 ≤ n1 ∧ n1 ≤ 3) :
    daysBeforeYear (400 * n400 + 100 * n100 + 4 * n4 + n1 + 1)
      = 146097 * n400 + 36524 * n100 + 1461 * n4 + 365 * n1 := by
  have hfours : (400 * n400 + 100 * n100 + 4 * n4 + n1) / 4 = 100 * n400 + 25 * n100 + n4 := by
    omega
  have hcenturies : (400 * n400 + 100 * n100 + 4 * n4 + n1) / 100 = 4 * n400 + n100 := by
    omega
  have hcycles : (400 * n400 + 100 * n100 + 4 * n4 + n1) / 400 = n400 := by
    omega
  rw [daysBeforeYear, Int.add_sub_cancel, hfours, hcenturies, hcycles]
  omega

/-- A day has its place in the cycles: after at most three centuries, at
most 24 fours and at most three years, it is one of the days of a year.
The day 365 of a year comes only where a cycle of four years ends and is
not cut short by its century. -/
theorem yearAndDay_cycles (days : Int) :
    ∃ (n400 : Int) (n100 n4 n1 n : Nat),
      yearAndDay days = (400 * n400 + 100 * n100 + 4 * n4 + n1 + 1, n) ∧
      days = 146097 * n400 + 36524 * n100 + 1461 * n4 + 365 * n1 + n ∧
      n100 ≤ 3 ∧ n4 ≤ 24 ∧ n1 ≤ 3 ∧ n ≤ 365 ∧ (n = 365 → n1 = 3 ∧ (n4 = 24 → n100 = 3)) := by
  -- The quotients get names one by one, so that each step is linear.
  obtain ⟨n400, hn400⟩ : ∃ n400, n400 = days / 146097 := ⟨_, rfl⟩
  obtain ⟨d400, hd400⟩ : ∃ d400, d400 = (days % 146097).toNat := ⟨_, rfl⟩
  obtain ⟨n100, hn100⟩ : ∃ n100, n100 = min (d400 / 36524) 3 := ⟨_, rfl⟩
  obtain ⟨d100, hd100⟩ : ∃ d100, d100 = d400 - 36524 * n100 := ⟨_, rfl⟩
  obtain ⟨n1, hn1⟩ : ∃ n1, n1 = min (d100 % 1461 / 365) 3 := ⟨_, rfl⟩
  have hcentury : d100 ≤ 36524 ∧ (d100 = 36524 → n100 = 3) := by omega
  refine ⟨n400, n100, d100 / 1461, n1, d100 % 1461 - 365 * n1, ?_, ?_, ?_, ?_, ?_, ?_, ?_⟩
  · subst hn400 hn1 hd100 hn100 hd400
    rfl
  all_goals omega

/-- The year of a day begins as many days before it as `yearAndDay` says,
and it has that day. -/
theorem yearAndDay_spec (days : Int) :
    daysBeforeYear (yearAndDay days).1 + (yearAndDay days).2 = days ∧
      (yearAndDay days).2 < yearLength (yearAndDay days).1 := by
  obtain ⟨n400, n100, n4, n1, n, hyear, hdays, h100, h4, h1, hn, hlast⟩ := yearAndDay_cycles days
  rw [hyear, yearLength_eq]
  refine ⟨?_, ?_⟩
  · rw [daysBeforeYear_cycles (by omega) (by omega) (by omega), hdays]
  · have hleap := isLeapYear_iff (400 * n400 + 100 * n100 + 4 * n4 + n1 + 1)
    split
    · omega
    · rename_i h
      have hcommon := mt hleap.mpr h
      omega

/-! ### Months -/

/-- The days of a month. -/
def monthLength (leap : Bool) (month : Nat) : Nat := (monthLengths leap)[month - 1]?.getD 0

/-- The days of a year before a month. -/
def daysBeforeMonth (leap : Bool) (month : Nat) : Nat :=
  ((monthLengths leap).take (month - 1)).sum

/-- A year has twelve months. -/
theorem length_monthLengths (leap : Bool) : (monthLengths leap).length = 12 := rfl

/-- No month is longer than 31 days. -/
theorem monthLength_le (leap : Bool) (month : Nat) : monthLength leap month ≤ 31 := by
  have hall : ∀ n ∈ monthLengths leap, n ≤ 31 := by
    cases leap with
    | false => decide
    | true => decide
  rw [monthLength]
  cases hmonth : (monthLengths leap)[month - 1]? with
  | none => exact Nat.zero_le 31
  | some n => exact hall n (List.mem_of_getElem? hmonth)

/-- A month is over before any later month begins. -/
theorem sum_take_add_le {lengths : List Nat} {i j : Nat} (hi : i < lengths.length) (h : i < j) :
    (lengths.take i).sum + lengths[i]?.getD 0 ≤ (lengths.take j).sum := by
  induction lengths generalizing i j with
  | nil => cases hi
  | cons length rest ih =>
      obtain ⟨j, rfl⟩ := Nat.exists_eq_add_one_of_ne_zero (Nat.ne_zero_of_lt h)
      rw [List.take_succ_cons, List.sum_cons]
      cases i with
      | zero =>
          rw [List.take_zero, List.sum_nil, Nat.zero_add]
          exact Nat.le_add_right length _
      | succ i =>
          have hrest := ih (Nat.lt_of_succ_lt_succ hi) (Nat.lt_of_succ_lt_succ h)
          rw [List.take_succ_cons, List.sum_cons, List.getElem?_cons_succ, Nat.add_assoc]
          exact Nat.add_le_add_left hrest length

/-- A month begins after all days of the months before it. -/
theorem daysBeforeMonth_add_le (leap : Bool) {month month' : Nat} (hpos : 1 ≤ month)
    (hle : month ≤ 12) (h : month < month') :
    daysBeforeMonth leap month + monthLength leap month ≤ daysBeforeMonth leap month' := by
  have hi : month - 1 < (monthLengths leap).length := by
    rw [length_monthLengths]
    omega
  exact sum_take_add_le hi (by omega)

/-- The last month ends with the year. -/
theorem daysBeforeMonth_add_le_yearLength (year : Int) {month : Nat} (hpos : 1 ≤ month)
    (hle : month ≤ 12) :
    daysBeforeMonth (isLeapYear year) month + monthLength (isLeapYear year) month
      ≤ yearLength year :=
  daysBeforeMonth_add_le _ hpos hle (Nat.lt_succ_of_le hle)

/-- The month of a day begins as many days before it as `monthAndDay`
says, and it has that day. -/
theorem monthAndDay_spec {lengths : List Nat} {n : Nat} (hn : n < lengths.sum) (month : Nat) :
    ∃ i day, monthAndDay month n lengths = (month + i, day + 1) ∧ i < lengths.length ∧
      (lengths.take i).sum + day = n ∧ day < lengths[i]?.getD 0 := by
  induction lengths generalizing month n with
  | nil => exact absurd hn (Nat.not_lt_zero n)
  | cons length rest ih =>
      rw [List.sum_cons] at hn
      -- The day is in the first month, or in a later one, where it counts
      -- from the end of the first.
      by_cases hlt : n < length
      · refine ⟨0, n, ?_, Nat.succ_pos _, Nat.zero_add n, hlt⟩
        cases rest with
        | nil => rfl
        | cons _ _ => exact if_pos hlt
      · obtain ⟨i, day, hdate, hi, hsum, hday⟩ := ih (n := n - length) (by omega) (month + 1)
        refine ⟨i + 1, day, ?_, Nat.succ_lt_succ hi, ?_, hday⟩
        · cases rest with
          | nil => cases hi
          | cons _ _ =>
              rw [monthAndDay, if_neg hlt, hdate, Nat.add_right_comm, Nat.add_assoc]
              exact List.cons_ne_nil _ _
        · rw [List.take_succ_cons, List.sum_cons]
          omega

/-! ### Dates -/

/-- The date is one of the calendar. -/
structure Date.Valid (d : Date) : Prop where
  /-- Months count from one. -/
  month_pos : 1 ≤ d.month
  /-- A year has twelve months. -/
  month_le : d.month ≤ 12
  /-- Days count from one. -/
  day_pos : 1 ≤ d.day
  /-- The month has that day in that year. -/
  day_le : d.day ≤ monthLength (isLeapYear d.year) d.month

/-- The days before a date, counted as `Date.ofDays` counts them. -/
def Date.dayNumber (d : Date) : Int :=
  daysBeforeYear d.year + daysBeforeMonth (isLeapYear d.year) d.month + d.day - 1

/-- The date as a number of eight digits. -/
def Date.number (d : Date) : Int := 10000 * d.year + 100 * d.month + d.day

/-- No day of a month is beyond the 31st. -/
theorem Date.Valid.day_le_31 {d : Date} (h : d.Valid) : d.day ≤ 31 :=
  Nat.le_trans h.day_le (monthLength_le _ _)

/-- Every day number has a date of the calendar, which gives the number
back. -/
theorem Date.ofDays_spec (days : Int) :
    (ofDays days).Valid ∧ (ofDays days).dayNumber = days := by
  obtain ⟨hdays, hlt⟩ := yearAndDay_spec days
  obtain ⟨i, day, hdate, hi, hsum, hday⟩ := monthAndDay_spec hlt 1
  have hofDays : ofDays days = ⟨(yearAndDay days).1, 1 + i, day + 1⟩ := by
    rw [ofDays]
    simp only [hdate]
  rw [length_monthLengths] at hi
  rw [hofDays]
  refine ⟨⟨Nat.le_add_right 1 i, Nat.add_comm i 1 ▸ hi, Nat.succ_pos day, ?_⟩, ?_⟩
  · rw [monthLength, Nat.add_sub_cancel_left]
    exact hday
  · simp only [dayNumber, daysBeforeMonth, Nat.add_sub_cancel_left]
    omega

/-- The date that comes first when written as one number comes first in the
calendar. -/
theorem Date.dayNumber_lt_of_number_lt {p q : Date} (hp : p.Valid) (hq : q.Valid)
    (h : p.number < q.number) : p.dayNumber < q.dayNumber := by
  obtain ⟨hpmonth, hpmonth', hpday, hpday'⟩ := hp
  have hqmonth := hq.month_le
  have hqday := hq.day_pos
  -- Month and day have two digits each, so the first field that differs
  -- decides.
  have hcases : p.year < q.year ∨ p.year = q.year ∧
      (p.month < q.month ∨ p.month = q.month ∧ p.day < q.day) := by
    have hqday' := hq.day_le_31
    rw [number, number] at h
    omega
  rw [dayNumber, dayNumber]
  rcases hcases with hyear | ⟨hyear, hmonth | ⟨hmonth, hday⟩⟩
  · have hnext := daysBeforeYear_mono (Int.add_one_le_of_lt hyear)
    have hsucc := daysBeforeYear_succ p.year
    have hend := daysBeforeMonth_add_le_yearLength p.year hpmonth hpmonth'
    omega
  · have hnext := daysBeforeMonth_add_le (isLeapYear p.year) hpmonth hpmonth' hmonth
    rw [← hyear]
    omega
  · rw [hyear, hmonth]
    omega

/-- A date can be told from the number that is written of it. -/
theorem Date.eq_of_number_eq {p q : Date} (hp : p.Valid) (hq : q.Valid)
    (h : p.number = q.number) : p = q := by
  have hpmonth := hp.month_le
  have hqmonth := hq.month_le
  have hpday := hp.day_le_31
  have hqday := hq.day_le_31
  rw [number, number] at h
  have hyear : p.year = q.year := by omega
  have hmonth : p.month = q.month := by omega
  have hday : p.day = q.day := by omega
  cases p
  cases q
  rw [Date.mk.injEq]
  exact ⟨hyear, hmonth, hday⟩

/-! ### Dates with a time of day -/

/-- Calendar and clock can show this. -/
structure DateTime.Valid (d : DateTime) : Prop where
  /-- The date is one of the calendar. -/
  date : d.toDate.Valid
  /-- A day has 24 hours. -/
  hour_lt : d.hour < 24
  /-- An hour has 60 minutes. -/
  minute_lt : d.minute < 60
  /-- A minute has 60 seconds. -/
  second_lt : d.second < 60

/-- The whole seconds since 1970. -/
def DateTime.seconds (d : DateTime) : Int :=
  86400 * (d.dayNumber - epochDay) + 3600 * d.hour + 60 * d.minute + d.second

/-- Date and time of day as a number of fourteen digits. -/
def DateTime.number (d : DateTime) : Int :=
  1000000 * d.toDate.number + 10000 * d.hour + 100 * d.minute + d.second

/-- What calendar and clock show at an instant gives its seconds back. -/
theorem DateTime.ofInstant_spec (t : Instant) :
    (ofInstant t).Valid ∧ (ofInstant t).seconds = t.seconds := by
  obtain ⟨hvalid, hdays⟩ := Date.ofDays_spec (epochDay + t.seconds / 86400)
  have hdate : (ofInstant t).toDate = Date.ofDays (epochDay + t.seconds / 86400) := rfl
  refine ⟨⟨hdate ▸ hvalid, ?_, ?_, ?_⟩, ?_⟩
  · simp only [ofInstant]
    omega
  · exact Nat.mod_lt _ (by decide)
  · exact Nat.mod_lt _ (by decide)
  · rw [seconds, hdate, hdays]
    simp only [ofInstant]
    omega

/-- What comes first when written as one number comes first in time. -/
theorem DateTime.seconds_lt_of_number_lt {p q : DateTime} (hp : p.Valid) (hq : q.Valid)
    (h : p.number < q.number) : p.seconds < q.seconds := by
  obtain ⟨hpdate, hphour, hpminute, hpsecond⟩ := hp
  obtain ⟨hqdate, hqhour, hqminute, hqsecond⟩ := hq
  have hcases : p.toDate.number < q.toDate.number ∨ p.toDate.number = q.toDate.number ∧
      (p.hour < q.hour ∨ p.hour = q.hour ∧
        (p.minute < q.minute ∨ p.minute = q.minute ∧ p.second < q.second)) := by
    rw [number, number] at h
    omega
  rw [seconds, seconds]
  rcases hcases with hdate | ⟨hdate, htime⟩
  · -- A whole day outweighs any time of day.
    have hdays := Date.dayNumber_lt_of_number_lt hpdate hqdate hdate
    omega
  · rw [Date.eq_of_number_eq hpdate hqdate hdate]
    omega

/-- What is written as one number is one second. -/
theorem DateTime.seconds_eq_of_number_eq {p q : DateTime} (hp : p.Valid) (hq : q.Valid)
    (h : p.number = q.number) : p.seconds = q.seconds := by
  obtain ⟨hpdate, hphour, hpminute, hpsecond⟩ := hp
  obtain ⟨hqdate, hqhour, hqminute, hqsecond⟩ := hq
  rw [number, number] at h
  have hdate : p.toDate.number = q.toDate.number := by omega
  rw [seconds, seconds, Date.eq_of_number_eq hpdate hqdate hdate]
  omega

/-- Later seconds have larger digits. -/
theorem DateTime.number_lt_iff (a b : Instant) :
    (ofInstant a).number < (ofInstant b).number ↔ a.seconds < b.seconds := by
  obtain ⟨ha, haseconds⟩ := ofInstant_spec a
  obtain ⟨hb, hbseconds⟩ := ofInstant_spec b
  refine ⟨fun h => ?_, fun h => ?_⟩
  · rw [← haseconds, ← hbseconds]
    exact seconds_lt_of_number_lt ha hb h
  · rw [← haseconds, ← hbseconds] at h
    rcases Int.lt_trichotomy (ofInstant a).number (ofInstant b).number with hlt | heq | hgt
    · exact hlt
    · exact absurd (seconds_eq_of_number_eq ha hb heq) (Int.ne_of_lt h)
    · exact absurd (seconds_lt_of_number_lt hb ha hgt) (Int.lt_asymm h)

end ScriptGate.Calendar
