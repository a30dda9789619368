import CompoundFile.Proofs.Calendar
import CompoundFile.Proofs.Words

/-!
# What file times stand for

The instant of a file time is the number of ticks once more, split into seconds and the rest of a
second and counted from 1970, so nothing is lost and the order is kept
(`Filetime.instant?_eq_some_iff`, `Filetime.lt_iff_before`).

**Words.** The conversion can be done in signed words of 64 bits, ending with a function that makes
an instant of seconds and nanoseconds and may refuse years that it does not know. All instants of
file times are in years from 1601 to 30828, and no step on the way overflows
(`Filetime.checkedInstant_eq`).

**Date and time.** An instant is a day, counted from 1970-01-01, and a time of this day; the day has
its date by the calendar (`OnDay`). So there is exactly one date and time for an instant, and it is
what the text of the instant shows (`Instant.of_toCivil`).

Main result: `Filetime.instant?_faithful`.
-/

namespace CompoundFile

/-! ## Dates with times -/

/-- A date and a time of day. -/
structure Civil where
  date : Date
  hour : Nat
  minute : Nat
  second : Nat
  nanos : Nat
  deriving DecidableEq

namespace Civil

/-- The text of a date and a time of day, to the nanosecond. -/
def toText (c : Civil) : String :=
  c.date.toText ++ "T" ++ Text.decimal 2 c.hour ++ ":" ++ Text.decimal 2 c.minute ++ ":" ++
    Text.decimal 2 c.second ++ "." ++ Text.decimal 9 c.nanos ++ "Z"

/-- The date and the time of day, in a calendar where all days have 86400 seconds, of an instant. -/
structure Of (c : Civil) (t : Instant) : Prop where
  hour_lt : c.hour < 24
  minute_lt : c.minute < 60
  second_lt : c.second < 60
  nanos_eq : c.nanos = t.nanos
  seconds_eq : ∃ day, OnDay day c.date ∧
    t.seconds = 86400 * day + (3600 * c.hour + 60 * c.minute + c.second : Nat)

/-- There is no more than one date and time of an instant. -/
theorem Of.unique {c c' : Civil} {t : Instant} (h : c.Of t) (h' : c'.Of t) : c = c' := by
  obtain ⟨hhour, hminute, hsecond, hnanos, day, hday, hseconds⟩ := h
  obtain ⟨hhour', hminute', hsecond', hnanos', day', hday', hseconds'⟩ := h'
  have hsame : day = day' ∧ c.hour = c'.hour ∧ c.minute = c'.minute ∧ c.second = c'.second := by
    omega
  obtain ⟨rfl, hhours, hminutes, hseconds⟩ := hsame
  have hdate : c.date = c'.date := (onDay_iff.1 hday).trans (onDay_iff.1 hday').symm
  obtain ⟨date, hour, minute, second, nanos⟩ := c
  obtain ⟨date', hour', minute', second', nanos'⟩ := c'
  rw [mk.injEq]
  exact ⟨hdate, hhours, hminutes, hseconds, hnanos.trans hnanos'.symm⟩

end Civil

namespace Instant

/-- The date and the time of day of an instant. -/
def toCivil (t : Instant) : Civil where
  date := t.date
  hour := (t.seconds % 86400).toNat / 3600
  minute := (t.seconds % 86400).toNat / 60 % 60
  second := (t.seconds % 86400).toNat % 60
  nanos := t.nanos

theorem toText_toCivil (t : Instant) : t.toCivil.toText = t.toText := rfl

/-- **The date and time that are shown are those of the instant.** -/
theorem of_toCivil (t : Instant) : t.toCivil.Of t := by
  have hlt : (t.seconds % 86400).toNat < 86400 := by omega
  have hday : OnDay (t.seconds / 86400) t.date := onDay_iff.2 rfl
  refine ⟨?_, ?_, ?_, rfl, t.seconds / 86400, hday, ?_⟩ <;> dsimp only [toCivil] <;> omega

/-- One instant is earlier than another. -/
def Before (t t' : Instant) : Prop :=
  t.seconds < t'.seconds ∨ t.seconds = t'.seconds ∧ t.nanos < t'.nanos

end Instant

/-! ## Instants of file times -/

namespace Filetime

variable {ticks ticks' : UInt64} {t t' : Instant}

theorem outOfRange_iff :
    ticks = 0 ∨ 0x8000000000000000 ≤ ticks ↔ ticks = 0 ∨ 2 ^ 63 ≤ ticks.toNat :=
  or_congr_right UInt64.le_iff_toNat_le

theorem instant?_eq_none_iff : instant? ticks = none ↔ ticks = 0 ∨ 2 ^ 63 ≤ ticks.toNat := by
  rw [← outOfRange_iff]
  unfold instant?
  split
  next hout => exact iff_of_true rfl hout
  next hin => exact iff_of_false (Option.some_ne_none _) hin

/-- The instant and the ticks are the same number, counted from different beginnings. -/
structure Counts (ticks : UInt64) (t : Instant) : Prop where
  nanos_lt : t.nanos < 10 ^ 9
  dvd_nanos : 100 ∣ t.nanos
  ticks_eq : t.seconds * 10 ^ 7 + (t.nanos / 100 : Nat) + 116444736000000000 = ticks.toNat

/-- **What has an instant, and which.** -/
theorem instant?_eq_some_iff :
    instant? ticks = some t ↔ (0 < ticks.toNat ∧ ticks.toNat < 2 ^ 63) ∧ Counts ticks t := by
  have hrange : ¬(ticks = 0 ∨ 2 ^ 63 ≤ ticks.toNat) ↔ 0 < ticks.toNat ∧ ticks.toNat < 2 ^ 63 := by
    rw [← UInt64.toNat_inj, UInt64.toNat_zero]
    omega
  rw [← hrange, ← outOfRange_iff]
  unfold instant?
  split
  next hout => exact iff_of_false (Option.some_ne_none t).symm fun h => h.1 hout
  next hin =>
    dsimp only [unixEpoch]
    rw [Option.some.injEq]
    constructor
    · rintro rfl
      refine ⟨hin, ?_, Nat.dvd_mul_left _ _, ?_⟩ <;> dsimp only <;> omega
    · rintro ⟨-, hnanos, hdvd, hticks⟩
      obtain ⟨seconds, nanos⟩ := t
      dsimp only at hnanos hdvd hticks
      rw [Instant.mk.injEq]
      omega

/-- No two counts of ticks have the same instant. -/
theorem Counts.unique (h : Counts ticks t) (h' : Counts ticks' t) : ticks = ticks' := by
  have hticks := h.ticks_eq
  have hticks' := h'.ticks_eq
  rw [← UInt64.toNat_inj]
  omega

/-- **More ticks are later.** -/
theorem lt_iff_before (h : Counts ticks t) (h' : Counts ticks' t') :
    ticks < ticks' ↔ t.Before t' := by
  obtain ⟨hlt, ⟨k, hk⟩, hticks⟩ := h
  obtain ⟨hlt', ⟨k', hk'⟩, hticks'⟩ := h'
  rw [UInt64.lt_iff_toNat_lt, Instant.Before]
  omega

/-! ## Years -/

/-- The years of file times. -/
theorem year_of_instant? (h : instant? ticks = some t) : 1601 ≤ t.date.year ∧ t.date.year ≤ 30828 := by
  obtain ⟨⟨hpos, hlt⟩, hnanos, -, hticks⟩ := instant?_eq_some_iff.1 h
  obtain ⟨year, k, hk, hdays, hdate⟩ := Date.exists_year (t.seconds / 86400 + Instant.unixEpochDays)
  have hlength := Date.yearLength_cases year
  rw [Instant.date, hdate]
  show 1601 ≤ year ∧ year ≤ 30828
  unfold Instant.unixEpochDays Date.daysBefore at hdays
  omega

/-! ## Words -/

/-- A function that makes the instant of whole seconds since 1970 and nanoseconds past them, at least
in the years from `first` to `last`. -/
def Knows (first last : Int) (fromTimestamp : Int64 → UInt32 → Option Instant) : Prop :=
  ∀ (seconds : Int64) (nanos : UInt32), nanos.toNat < 10 ^ 9 →
    first ≤ (Instant.mk seconds.toInt nanos.toNat).date.year →
    (Instant.mk seconds.toInt nanos.toNat).date.year ≤ last →
    fromTimestamp seconds nanos = some ⟨seconds.toInt, nanos.toNat⟩

/-- The instant of a file time, if no step on the way overflows. A count that is no signed word has no
instant. -/
def checkedInstant (fromTimestamp : Int64 → UInt32 → Option Instant) (ticks : UInt64) :
    Option (Option Instant) :=
  if ticks = 0 then some none
  else
    match Words.signed64? ticks.toNat with
    | none => some none
    | some count => do
      let sinceEpoch ← Words.signed64? (count.toInt - unixEpoch)
      let seconds ← Words.signed64? (sinceEpoch.toInt / 10000000)
      let rest ← Words.signed64? (sinceEpoch.toInt % 10000000)
      let product ← Words.signed64? (rest.toInt * 100)
      let nanos ← Words.unsigned32? product.toInt.toNat
      return fromTimestamp seconds nanos

section Checked

variable {fromTimestamp : Int64 → UInt32 → Option Instant}

theorem checkedInstant_of_bounds (hknows : Knows 1601 30828 fromTimestamp) (hpos : 0 < ticks.toNat)
    (hlt : ticks.toNat < 2 ^ 63) :
    checkedInstant fromTimestamp ticks = some (instant? ticks) := by
  have hne : ticks ≠ 0 := by
    rintro rfl
    exact Nat.lt_irrefl 0 hpos
  have hepoch : unixEpoch = 116444736000000000 := rfl
  obtain ⟨count, hcount, hcountInt⟩ := Words.exists_signed64? (n := ticks.toNat) (by omega) (by omega)
  obtain ⟨since, hsince, hsinceInt⟩ :=
    Words.exists_signed64? (n := count.toInt - unixEpoch) (by omega) (by omega)
  obtain ⟨seconds, hseconds, hsecondsInt⟩ :=
    Words.exists_signed64? (n := since.toInt / 10000000) (by omega) (by omega)
  obtain ⟨rest, hrest, hrestInt⟩ :=
    Words.exists_signed64? (n := since.toInt % 10000000) (by omega) (by omega)
  obtain ⟨product, hproduct, hproductInt⟩ :=
    Words.exists_signed64? (n := rest.toInt * 100) (by omega) (by omega)
  obtain ⟨nanos, hnanos, hnanosNat⟩ :=
    Words.exists_unsigned32? (n := product.toInt.toNat) (by omega)
  have hcounts : Counts ticks ⟨seconds.toInt, nanos.toNat⟩ := by
    refine ⟨?_, ?_, ?_⟩ <;> dsimp only <;> omega
  have hinstant := instant?_eq_some_iff.2 ⟨⟨hpos, hlt⟩, hcounts⟩
  obtain ⟨hfirst, hlast⟩ := year_of_instant? hinstant
  rw [hinstant, ← hknows seconds nanos hcounts.nanos_lt hfirst hlast]
  simp only [checkedInstant, if_neg hne, hcount, hsince, hseconds, hrest, hproduct, hnanos,
    Option.bind_eq_bind, Option.bind_some, pure]

/-- **The conversion never overflows**, and the years that it meets are known. -/
theorem checkedInstant_eq (hknows : Knows 1601 30828 fromTimestamp) (ticks : UInt64) :
    checkedInstant fromTimestamp ticks = some (instant? ticks) := by
  by_cases hzero : ticks = 0
  · rw [instant?_eq_none_iff.2 (Or.inl hzero), checkedInstant, if_pos hzero]
  · have hpos : 0 < ticks.toNat := by
      rw [← UInt64.toNat_inj, UInt64.toNat_zero] at hzero
      exact Nat.pos_of_ne_zero hzero
    by_cases hlt : ticks.toNat < 2 ^ 63
    · exact checkedInstant_of_bounds hknows hpos hlt
    · have hword : Words.signed64? ticks.toNat = none := if_neg (by omega)
      rw [instant?_eq_none_iff.2 (Or.inr (Nat.not_lt.1 hlt)), checkedInstant, if_neg hzero, hword]

end Checked

/-- **File times are converted exactly and in order.** Zero and counts from 2^63 on have no instant.
Every other has one, and nothing overflows on the way to it, whatever makes the instant of seconds and
nanoseconds, if it knows the years that occur. The instant is the same number of ticks, counted from
1970, in seconds and less than a second. There is one date and time for it, in the years from 1601 to
30828, and this is what its text shows. Fewer ticks are an earlier instant, and different ticks a
different one. -/
theorem instant?_faithful {fromTimestamp : Int64 → UInt32 → Option Instant}
    (hknows : Knows 1601 30828 fromTimestamp) :
    (∀ ticks, checkedInstant fromTimestamp ticks = some (instant? ticks)) ∧
    (∀ ticks, instant? ticks = none ↔ ticks = 0 ∨ 2 ^ 63 ≤ ticks.toNat) ∧
    (∀ ticks t, instant? ticks = some t →
      t.nanos < 10 ^ 9 ∧ 100 ∣ t.nanos ∧
      t.seconds * 10 ^ 7 + (t.nanos / 100 : Nat) + 116444736000000000 = ticks.toNat ∧
      ∃ c : Civil, c.Of t ∧ t.toText = c.toText ∧ 1601 ≤ c.date.year ∧ c.date.year ≤ 30828 ∧
        ∀ c' : Civil, c'.Of t → c' = c) ∧
    ∀ ticks ticks' t t', instant? ticks = some t → instant? ticks' = some t' →
      (ticks < ticks' ↔ t.Before t') ∧ (t = t' → ticks = ticks') := by
  refine ⟨checkedInstant_eq hknows, fun ticks => instant?_eq_none_iff, ?_, ?_⟩
  · intro ticks t h
    obtain ⟨-, hlt, hdvd, hticks⟩ := instant?_eq_some_iff.1 h
    obtain ⟨hfirst, hlast⟩ := year_of_instant? h
    exact ⟨hlt, hdvd, hticks, t.toCivil, t.of_toCivil, t.toText_toCivil.symm, hfirst, hlast,
      fun c hc => hc.unique t.of_toCivil⟩
  · intro ticks ticks' t t' h h'
    obtain ⟨-, hcounts⟩ := instant?_eq_some_iff.1 h
    obtain ⟨-, hcounts'⟩ := instant?_eq_some_iff.1 h'
    refine ⟨lt_iff_before hcounts hcounts', ?_⟩
    rintro rfl
    exact hcounts.unique hcounts'

/-- The instants of the years from -262143 to 262142. A second that lasts longer than one is the last of
its minute. -/
def timestamp? (seconds : Int64) (nanos : UInt32) : Option Instant :=
  let t : Instant := ⟨seconds.toInt, nanos.toNat⟩
  if -262143 ≤ t.date.year ∧ t.date.year ≤ 262142 ∧
      (t.nanos < 10 ^ 9 ∨ t.nanos < 2 * 10 ^ 9 ∧ t.seconds % 60 = 59) then some t
  else none

theorem knows_timestamp : Knows 1601 30828 timestamp? := by
  intro seconds nanos hnanos hfirst hlast
  exact if_pos ⟨by omega, by omega, Or.inl hnanos⟩

/-- The last file time that has an instant is on 30828-09-14, and the one before it is earlier. -/
theorem instant?_faithful_last :
    checkedInstant timestamp? 9223372036854775807 = some (some ⟨910692730085, 477580700⟩) ∧
    (∃ c : Civil, c.Of ⟨910692730085, 477580700⟩ ∧ c = ⟨⟨30828, 9, 14⟩, 2, 48, 5, 477580700⟩) ∧
    Instant.Before ⟨910692730085, 477580600⟩ ⟨910692730085, 477580700⟩ := by
  obtain ⟨hchecked, -, hexact, horder⟩ := instant?_faithful knows_timestamp
  have hlast : instant? 9223372036854775807 = some ⟨910692730085, 477580700⟩ := by decide +kernel
  have hbefore : instant? 9223372036854775806 = some ⟨910692730085, 477580600⟩ := by decide +kernel
  obtain ⟨-, -, -, c, hc, -, -, -, hunique⟩ := hexact _ _ hlast
  refine ⟨(hchecked _).trans (congrArg some hlast), ⟨c, hc, ?_⟩, ?_⟩
  · rw [← hunique _ (Instant.of_toCivil _)]
    decide +kernel
  · exact (horder _ _ _ _ hbefore hlast).1.1 (by decide)

end Filetime

end CompoundFile
