import CompoundFile.Filetime
import Mathlib

/-!
# The Gregorian calendar

What a calendar is can be said without any arithmetic on years: every date has a date after it,
which is the next day of the month, or the first of the next month, or the first of January
(`Date.next`), and 1970-01-01 is day 0. This fixes the date of every day, also of the days before
(`OnDay`).

**Years and days.** A day is a day of a year. The days before a year grow with the year by its length
(`Date.daysBefore_succ`), so there is only one year for a day, and it is the one that counting in
cycles, centuries and groups of four years finds (`Date.exists_year`). Inside a year, the month is
the one whose days hold the day of the year (`Date.inMonth_take_sum`).

Main result: `onDay_iff`.
-/

namespace CompoundFile

namespace Date

/-! ## The day after -/

/-- The number of days of a month. -/
def monthLength (year : Int) (month : Nat) : Nat := (monthLengths year).getD (month - 1) 0

/-- A day of a month of a year. -/
structure Valid (d : Date) : Prop where
  month_pos : 1 ≤ d.month
  month_le : d.month ≤ 12
  day_pos : 1 ≤ d.day
  day_le : d.day ≤ monthLength d.year d.month

/-- The day after a date. -/
def next (d : Date) : Date :=
  if d.day < monthLength d.year d.month then ⟨d.year, d.month, d.day + 1⟩
  else if d.month < 12 then ⟨d.year, d.month + 1, 1⟩
  else ⟨d.year + 1, 1, 1⟩

/-- What the day after is: another day of the month, of the year, or of the next year. -/
theorem Valid.next_cases {d : Date} (h : d.Valid) :
    d.day < monthLength d.year d.month ∧ d.next = ⟨d.year, d.month, d.day + 1⟩ ∨
    d.day = monthLength d.year d.month ∧ d.month < 12 ∧ d.next = ⟨d.year, d.month + 1, 1⟩ ∨
    d.day = monthLength d.year d.month ∧ d.month = 12 ∧ d.next = ⟨d.year + 1, 1, 1⟩ := by
  obtain ⟨-, hmonth, -, hday⟩ := h
  unfold next
  by_cases hlt : d.day < monthLength d.year d.month
  · exact Or.inl ⟨hlt, if_pos hlt⟩
  · have hlast : d.day = monthLength d.year d.month := by omega
    rw [if_neg hlt]
    by_cases hyear : d.month < 12
    · exact Or.inr (Or.inl ⟨hlast, hyear, if_pos hyear⟩)
    · exact Or.inr (Or.inr ⟨hlast, by omega, if_neg hyear⟩)

/-- No two dates have the same day after them. -/
theorem Valid.next_injective {d d' : Date} (h : d.Valid) (h' : d'.Valid) (heq : d.next = d'.next) :
    d = d' := by
  have hday := h.day_pos
  have hday' := h'.day_pos
  have hmonth := h.month_pos
  have hmonth' := h'.month_pos
  have hsame : d.year = d'.year ∧ d.month = d'.month ∧
      (monthLength d.year d.month = monthLength d'.year d'.month → d.day = d'.day) := by
    rcases h.next_cases with ⟨hlt, hnext⟩ | ⟨hlast, hlt, hnext⟩ | ⟨hlast, hlt, hnext⟩ <;>
      rcases h'.next_cases with ⟨hlt', hnext'⟩ | ⟨hlast', hlt', hnext'⟩ | ⟨hlast', hlt', hnext'⟩ <;>
      rw [hnext, hnext', mk.injEq] at heq <;> omega
  obtain ⟨hyear, hmonth, hdays⟩ := hsame
  rw [hyear, hmonth] at hdays
  obtain ⟨year, month, day⟩ := d
  obtain ⟨year', month', day'⟩ := d'
  rw [mk.injEq]
  exact ⟨hyear, hmonth, hdays rfl⟩

/-! ## Days of a month -/

section Months

variable {lengths : List Nat} {month i r : Nat}

/-- A day is found in the month whose days hold it. -/
theorem inMonth_take_sum (hr : r < lengths.getD i 0) :
    inMonth month ((lengths.take i).sum + r) lengths = (month + i, r + 1) := by
  induction lengths generalizing month i with
  | nil => simp at hr
  | cons length lengths ih =>
    cases i with
    | zero =>
      rw [List.getD_cons_zero] at hr
      simp [inMonth, hr]
    | succ i =>
      rw [List.getD_cons_succ] at hr
      have hnot : ¬length + (lengths.take i).sum + r < length := by omega
      have hrest : length + (lengths.take i).sum + r - length = (lengths.take i).sum + r := by omega
      rw [List.take_succ_cons, List.sum_cons, inMonth, if_neg hnot, hrest, ih hr, Nat.add_assoc,
        Nat.add_comm 1 i]

/-- Every day below the sum of the lengths is in a month. -/
theorem exists_take_sum {k : Nat} (hk : k < lengths.sum) :
    ∃ i r, i < lengths.length ∧ r < lengths.getD i 0 ∧ k = (lengths.take i).sum + r := by
  induction lengths generalizing k with
  | nil => simp at hk
  | cons length lengths ih =>
    by_cases hlt : k < length
    · exact ⟨0, k, by simp, by simpa using hlt, by simp⟩
    · rw [List.sum_cons] at hk
      obtain ⟨i, r, hi, hr, hsum⟩ := ih (k := k - length) (by omega)
      refine ⟨i + 1, r, by simpa using hi, by simpa using hr, ?_⟩
      rw [List.take_succ_cons, List.sum_cons]
      omega

end Months

/-! ## Days of a year -/

/-- The number of days of a year. -/
def yearLength (year : Int) : Nat := if isLeap year then 366 else 365

theorem isLeap_iff {year : Int} :
    isLeap year = true ↔ year % 4 = 0 ∧ (year % 100 ≠ 0 ∨ year % 400 = 0) := by
  simp [isLeap]

theorem length_monthLengths (year : Int) : (monthLengths year).length = 12 := rfl

theorem sum_monthLengths (year : Int) : (monthLengths year).sum = yearLength year := by
  unfold monthLengths yearLength
  split <;> rfl

theorem monthLength_pos {year : Int} {i : Nat} (hi : i < 12) : 0 < (monthLengths year).getD i 0 := by
  unfold monthLengths
  interval_cases i <;> simp
  split <;> simp

/-- The date of a day of a year. -/
def ofYearDay (year : Int) (k : Nat) : Date :=
  ⟨year, (inMonth 1 k (monthLengths year)).1, (inMonth 1 k (monthLengths year)).2⟩

section Year

variable {year : Int} {i r k : Nat}

theorem ofYearDay_take_sum (hr : r < (monthLengths year).getD i 0) :
    ofYearDay year (((monthLengths year).take i).sum + r) = ⟨year, i + 1, r + 1⟩ := by
  rw [ofYearDay, inMonth_take_sum hr, Nat.add_comm 1 i]

theorem valid_ofYearDay (hk : k < yearLength year) : (ofYearDay year k).Valid := by
  rw [← sum_monthLengths] at hk
  obtain ⟨i, r, hi, hr, rfl⟩ := exists_take_sum hk
  rw [length_monthLengths] at hi
  rw [ofYearDay_take_sum hr]
  exact ⟨Nat.succ_pos i, hi, Nat.succ_pos r, hr⟩

/-- The next day of a year is the day after. -/
theorem ofYearDay_succ (hk : k + 1 < yearLength year) :
    ofYearDay year (k + 1) = (ofYearDay year k).next := by
  rw [← sum_monthLengths] at hk
  obtain ⟨i, r, hi, hr, rfl⟩ := exists_take_sum (Nat.lt_of_succ_lt hk)
  have hvalid : (⟨year, i + 1, r + 1⟩ : Date).Valid :=
    ⟨Nat.succ_pos i, hi, Nat.succ_pos r, hr⟩
  have hlength : monthLength year (i + 1) = (monthLengths year).getD i 0 := rfl
  have htake : ((monthLengths year).take (i + 1)).sum =
      ((monthLengths year).take i).sum + (monthLengths year).getD i 0 := by
    rw [List.sum_take_succ _ _ hi, List.getD_eq_getElem _ _ hi]
  rw [ofYearDay_take_sum hr]
  rcases hvalid.next_cases with ⟨hlt, hnext⟩ | ⟨hlast, hmonth, hnext⟩ | ⟨hlast, hmonth, hnext⟩
  · rw [hnext, Nat.add_assoc]
    exact ofYearDay_take_sum hlt
  · dsimp only at hlast hmonth
    rw [hnext, Nat.add_assoc, hlast, hlength, ← htake]
    exact ofYearDay_take_sum (monthLength_pos hmonth)
  · -- The last day of December has no next day in its year.
    dsimp only at hlast hmonth
    have hall : ((monthLengths year).take (i + 1)).sum = (monthLengths year).sum := by
      rw [hmonth]
      rfl
    omega

theorem next_ofYearDay_last (hk : k + 1 = yearLength year) :
    (ofYearDay year k).next = ⟨year + 1, 1, 1⟩ := by
  have hlt : k < yearLength year := by omega
  rw [← sum_monthLengths] at hk hlt
  have hsum : ((monthLengths year).take 11).sum + 31 = (monthLengths year).sum := by
    unfold monthLengths
    split <;> rfl
  have hlast : (30 : Nat) < (monthLengths year).getD 11 0 := by
    unfold monthLengths
    simp
  have hk' : k = ((monthLengths year).take 11).sum + 30 := by omega
  rw [hk', ofYearDay_take_sum hlast]
  exact if_neg (lt_irrefl 31)

end Year

/-! ## Days and years -/

/-- The number of days from 1601-01-01 to the first day of a year. -/
def daysBefore (year : Int) : Int :=
  365 * (year - 1601) + (year - 1601) / 4 - (year - 1601) / 100 + (year - 1601) / 400

theorem yearLength_cases (year : Int) :
    yearLength year = 366 ∧ year % 4 = 0 ∧ (year % 100 ≠ 0 ∨ year % 400 = 0) ∨
      yearLength year = 365 ∧ ¬(year % 4 = 0 ∧ (year % 100 ≠ 0 ∨ year % 400 = 0)) := by
  unfold yearLength
  by_cases hleap : isLeap year = true
  · exact Or.inl ⟨if_pos hleap, isLeap_iff.1 hleap⟩
  · exact Or.inr ⟨if_neg hleap, isLeap_iff.not.1 hleap⟩

theorem daysBefore_succ (year : Int) : daysBefore (year + 1) = daysBefore year + yearLength year := by
  have hlength := yearLength_cases year
  unfold daysBefore
  omega

theorem daysBefore_mono {year year' : Int} (h : year ≤ year') : daysBefore year ≤ daysBefore year' := by
  unfold daysBefore
  omega

/-- A day is in one year only. -/
theorem year_unique {year year' : Int} {k k' : Nat} (hk : k < yearLength year)
    (hk' : k' < yearLength year') (heq : daysBefore year + k = daysBefore year' + k') :
    year = year' ∧ k = k' := by
  have hsucc := daysBefore_succ year
  have hsucc' := daysBefore_succ year'
  rcases lt_trichotomy year year' with hlt | rfl | hgt
  · have hmono := daysBefore_mono (show year + 1 ≤ year' from hlt)
    omega
  · exact ⟨rfl, by omega⟩
  · have hmono := daysBefore_mono (show year' + 1 ≤ year from hgt)
    omega

section Counting

variable {cycle : Int} {century four single : Nat}

/-- The days before a year that is given by cycles, centuries, groups of four years and years. -/
theorem daysBefore_counted (hcentury : century ≤ 3) (hfour : four ≤ 24) (hsingle : single ≤ 3) :
    daysBefore (1601 + 400 * cycle + 100 * century + 4 * four + single) =
      146097 * cycle + 36524 * century + 1461 * four + 365 * single := by
  generalize hyear : (1601 + 400 * cycle + 100 * century + 4 * four + single : Int) = year
  have hquarters : (year - 1601) / 4 = 100 * cycle + 25 * century + four := by omega
  have hhundreds : (year - 1601) / 100 = 4 * cycle + century := by omega
  have hcycles : (year - 1601) / 400 = cycle := by omega
  unfold daysBefore
  rw [hquarters, hhundreds, hcycles]
  omega

/-- The last of four years is longer, but for the last years of the first three centuries. -/
theorem yearLength_counted (hfour : four ≤ 24) (hlast : four = 24 → century = 3) :
    yearLength (1601 + 400 * cycle + 100 * century + 4 * four + (3 : Nat)) = 366 := by
  refine if_pos (isLeap_iff.2 ?_)
  omega

end Counting

/-- Counting in cycles, centuries and groups of four years finds the year of a day. -/
theorem exists_year (days : Int) :
    ∃ year k, k < yearLength year ∧ days = daysBefore year + (k : Nat) ∧
      ofDays days = ofYearDay year k := by
  generalize hcycle : days / 146097 = cycle
  generalize hd : (days % 146097).toNat = d
  generalize hcentury : min (d / 36524) 3 = century
  generalize hd' : d - century * 36524 = d'
  generalize hfour : d' / 1461 = four
  generalize hd'' : d' - four * 1461 = d''
  generalize hsingle : min (d'' / 365) 3 = single
  have hdays : days = 146097 * cycle + d := by omega
  have hcenturyLe : century ≤ 3 := by omega
  have hd'Le : d' ≤ 36524 ∧ (d' = 36524 → century = 3) := by omega
  have hfourLe : four ≤ 24 := by omega
  have hsingleLe : single ≤ 3 := by omega
  refine ⟨1601 + 400 * cycle + 100 * century + 4 * four + single, d'' - single * 365, ?_, ?_, ?_⟩
  · -- A day 365 is left over only in the last of four years, and only if this is a longer year.
    by_cases hk : d'' - single * 365 < 365
    · rcases yearLength_cases (1601 + 400 * cycle + 100 * century + 4 * four + single) with
        ⟨hlength, -⟩ | ⟨hlength, -⟩ <;> omega
    · obtain rfl : single = 3 := by omega
      have hlast : four = 24 → century = 3 := by omega
      rw [yearLength_counted hfourLe hlast]
      omega
  · rw [daysBefore_counted hcenturyLe hfourLe hsingleLe]
    omega
  · simp only [ofDays, hcycle, hd, hcentury, hd', hfour, hd'', hsingle]
    rfl

/-- The date of a day that is given by its year. -/
theorem ofDays_daysBefore {year : Int} {k : Nat} (hk : k < yearLength year) :
    ofDays (daysBefore year + k) = ofYearDay year k := by
  obtain ⟨year', k', hk', heq, hdate⟩ := exists_year (daysBefore year + k)
  obtain ⟨rfl, rfl⟩ := year_unique hk hk' heq
  exact hdate

theorem valid_ofDays (days : Int) : (ofDays days).Valid := by
  obtain ⟨year, k, hk, -, hdate⟩ := exists_year days
  rw [hdate]
  exact valid_ofYearDay hk

/-- **The date of the next day is the day after.** -/
theorem ofDays_succ (days : Int) : ofDays (days + 1) = (ofDays days).next := by
  obtain ⟨year, k, hk, rfl, hdate⟩ := exists_year days
  rw [hdate]
  by_cases hlast : k + 1 < yearLength year
  · rw [← ofYearDay_succ hlast, ← ofDays_daysBefore hlast, Int.add_assoc]
    rfl
  · have hend : k + 1 = yearLength year := by omega
    have hsucc := daysBefore_succ year
    have hfirst : daysBefore year + k + 1 = daysBefore (year + 1) + (0 : Nat) := by omega
    have hpos : 0 < yearLength (year + 1) := by
      rcases yearLength_cases (year + 1) with ⟨h, -⟩ | ⟨h, -⟩ <;> omega
    rw [next_ofYearDay_last hend, hfirst, ofDays_daysBefore hpos]
    rfl

end Date

/-! ## The date of a day -/

/-- The date of a day, counted from 1970-01-01. -/
inductive OnDay : Int → Date → Prop where
  | epoch : OnDay 0 ⟨1970, 1, 1⟩
  | later {n : Int} {d : Date} : OnDay n d → OnDay (n + 1) d.next
  | earlier {n : Int} {d : Date} : d.Valid → OnDay (n + 1) d.next → OnDay n d

theorem onDay_ofDays (n : Int) : OnDay n (.ofDays (n + Instant.unixEpochDays)) := by
  induction n using Int.induction_on with
  | zero => exact .epoch
  | succ n ih =>
    rw [Int.add_right_comm, Date.ofDays_succ]
    exact ih.later
  | pred n ih =>
    refine .earlier (Date.valid_ofDays _) ?_
    rw [← Date.ofDays_succ, Int.add_right_comm, Int.sub_add_cancel]
    exact ih

/-- **Every day has one date, and the calendar finds it.** -/
theorem onDay_iff {n : Int} {d : Date} : OnDay n d ↔ d = .ofDays (n + Instant.unixEpochDays) := by
  constructor
  · intro h
    induction h with
    | epoch => rfl
    | later _ ih => rw [ih, Int.add_right_comm, Date.ofDays_succ]
    | earlier hvalid _ ih =>
      rw [Int.add_right_comm, Date.ofDays_succ] at ih
      exact hvalid.next_injective (Date.valid_ofDays _) ih
  · rintro rfl
    exact onDay_ofDays n

end CompoundFile
