import Mathlib.Algebra.Order.Ring.Nat
import TxnLog.Calendar

/-!
# Dates and ordinals

`Date.ofOrdinal` finds a date that exists and whose ordinal is the given one, for every number of
days: the quotients by the periods of the calendar are the digits of the year to which the leap
year rule gives back their days (`daysBeforeYear_eq`), and the rest is a day of that year.
-/

namespace TxnLog.Calendar.Date

/-! ### Months -/

/-- The number of days before a month is the sum of the lengths of those before it. -/
theorem daysBeforeMonth_eq (leap : Bool) (month : Nat) :
    daysBeforeMonth leap month = ((monthLengths leap).take (month - 1)).sum := by
  rw [daysBeforeMonth, List.sum_eq_foldl]

/-- Months are counted off as long as their days are not more than those that are left: the day is
one of the month that is reached, and the days of the months before it and its own are `n`. -/
theorem monthAndDay_spec {lengths : List Nat} {n : Nat} (h : n < lengths.sum) (month : Nat) :
    ∃ k day, monthAndDay month lengths n = (month + k, day + 1) ∧ k < lengths.length
      ∧ day < lengths.getD k 0 ∧ (lengths.take k).sum + day = n := by
  induction lengths generalizing month n with
  | nil => exact absurd h (Nat.not_lt_zero n)
  | cons length lengths ih =>
    rw [List.sum_cons] at h
    rw [monthAndDay]
    split
    · next hlt => exact ⟨0, n, rfl, Nat.succ_pos _, hlt, by simp⟩
    · next hle =>
      obtain ⟨k, day, heq, hk, hday, hsum⟩ := @ih (n - length) (by omega) (month + 1)
      refine ⟨k + 1, day, ?_, Nat.succ_lt_succ hk, hday, ?_⟩
      · rw [heq, Nat.add_assoc, Nat.add_comm 1 k]
      · rw [List.take_succ_cons, List.sum_cons]
        omega

/-- The number of days of a year. -/
theorem sum_monthLengths (leap : Bool) :
    (monthLengths leap).sum = if leap then 366 else 365 := by cases leap <;> rfl

/-! ### Periods of years -/

/-- A quotient that is bounded from above leaves a whole period at most, and that much only if it
has reached its bound. -/
theorem bounded_quotient {n period bound : Nat} (hperiod : 0 < period)
    (hn : n ≤ (bound + 1) * period) :
    ∃ q r, min bound (n / period) = q ∧ n - q * period = r ∧ q * period + r = n ∧ q ≤ bound
      ∧ (r < period ∨ (r = period ∧ q = bound)) := by
  have hdiv : n / period * period + n % period = n := Nat.div_add_mod' n period
  have hmod : n % period < period := Nat.mod_lt n hperiod
  refine ⟨_, _, rfl, rfl, ?_⟩
  by_cases hle : n / period ≤ bound
  · rw [Nat.min_eq_right hle]
    exact ⟨by omega, hle, .inl (by omega)⟩
  · -- The quotient by the period itself is one more than the bound.
    have hbound : (bound + 1) * period ≤ n / period * period :=
      Nat.mul_le_mul_right _ (Nat.lt_of_not_le hle)
    rw [Nat.min_eq_left (Nat.le_of_not_le hle)]
    rw [Nat.add_mul, Nat.one_mul] at hn hbound
    exact ⟨by omega, Nat.le_refl _, .inr ⟨by omega, rfl⟩⟩

/-- So many periods of 400, 100, 4 and 1 years are over after `n` days, and `rest` days of the year
that follows. -/
structure Periods (n n400 n100 n4 n1 rest : Nat) : Prop where
  n100_le : n100 ≤ 3
  n4_le : n4 ≤ 24
  n1_le : n1 ≤ 3
  days : n400 * 146097 + (n100 * 36524 + (n4 * 1461 + (n1 * 365 + rest))) = n
  rest_le : rest < 365 ∨ (rest = 365 ∧ n1 = 3 ∧ (n4 = 24 → n100 = 3))

/-- The year that follows some periods. -/
def yearAfter (n400 n100 n4 n1 : Nat) : Nat := n400 * 400 + n100 * 100 + n4 * 4 + n1 + 1

/-- A date is found from the periods that are over. -/
theorem exists_periods (n : Nat) : ∃ n400 n100 n4 n1 rest, Periods n n400 n100 n4 n1 rest ∧
    ofOrdinal n = ⟨yearAfter n400 n100 n4 n1,
      (monthAndDay 1 (monthLengths (isLeap (yearAfter n400 n100 n4 n1))) rest).1,
      (monthAndDay 1 (monthLengths (isLeap (yearAfter n400 n100 n4 n1))) rest).2⟩ := by
  obtain ⟨n400, r400, hn400, hr400, h400, hlt400⟩ : ∃ q r, n / 146097 = q ∧ n % 146097 = r
      ∧ q * 146097 + r = n ∧ r < 146097 :=
    ⟨_, _, rfl, rfl, Nat.div_add_mod' n _, Nat.mod_lt n (by decide)⟩
  obtain ⟨n100, r100, hn100, hr100, h100, hle100, hlong100⟩ :=
    @bounded_quotient r400 36524 3 (by decide) (by omega)
  obtain ⟨n4, r4, hn4, hr4, h4, hlt4⟩ : ∃ q r, r100 / 1461 = q ∧ r100 % 1461 = r
      ∧ q * 1461 + r = r100 ∧ r < 1461 :=
    ⟨_, _, rfl, rfl, Nat.div_add_mod' r100 _, Nat.mod_lt r100 (by decide)⟩
  obtain ⟨n1, rest, hn1, hrest, h1, hle1, hlong1⟩ :=
    @bounded_quotient r4 365 3 (by decide) (by omega)
  refine ⟨n400, n100, n4, n1, rest, ⟨hle100, by omega, hle1, by rw [h1, h4, h100, h400], ?_⟩, ?_⟩
  · obtain hshort | ⟨hlong, hlast⟩ := hlong1
    · exact .inl hshort
    · exact .inr ⟨hlong, hlast, by omega⟩
  · simp only [ofOrdinal, hn400, hr400, hn100, hr100, hn4, hr4, hn1, hrest, yearAfter]

section

variable {n n400 n100 n4 n1 rest : Nat}

/-- The leap year rule gives each period its days. -/
theorem Periods.daysBeforeYear_eq (h : Periods n n400 n100 n4 n1 rest) :
    daysBeforeYear (yearAfter n400 n100 n4 n1)
      = n400 * 146097 + n100 * 36524 + n4 * 1461 + n1 * 365 := by
  obtain ⟨h100, h4, h1, -, -⟩ := h
  rw [daysBeforeYear, yearAfter]
  omega

/-- The days that are left are days of the year: there is one more of them than in a common year
only in the last year of a period of four that is not cut at the end of a century. -/
theorem Periods.rest_lt (h : Periods n n400 n100 n4 n1 rest) :
    rest < (monthLengths (isLeap (yearAfter n400 n100 n4 n1))).sum := by
  obtain ⟨h100, h4, h1, -, hrest⟩ := h
  rw [sum_monthLengths]
  obtain hshort | ⟨hlong, hlast, hcentury⟩ := hrest
  · split <;> omega
  · have hleap : isLeap (yearAfter n400 n100 n4 n1) = true := by
      simp only [isLeap, yearAfter, Bool.and_eq_true, Bool.or_eq_true, beq_iff_eq, bne_iff_ne]
      omega
    rw [if_pos hleap, hlong]
    decide

end

/-! ### Dates -/

/-- The date of an ordinal exists and has that ordinal. -/
theorem ofOrdinal_spec (n : Nat) : (ofOrdinal n).Valid ∧ (ofOrdinal n).ordinal = n := by
  obtain ⟨n400, n100, n4, n1, rest, hperiods, hdate⟩ := exists_periods n
  obtain ⟨k, day, hmonth, hk, hday, hsum⟩ := monthAndDay_spec hperiods.rest_lt 1
  rw [hdate, hmonth]
  constructor
  · have hmonths : k < 12 := hk
    refine ⟨Nat.succ_pos _, Nat.le_add_right 1 k, ?_, Nat.succ_pos day, ?_⟩
    · show 1 + k ≤ 12
      omega
    · rw [Nat.add_sub_cancel_left]
      exact hday
  · rw [ordinal, daysBeforeMonth_eq, hperiods.daysBeforeYear_eq, Nat.add_sub_cancel_left,
      Nat.add_sub_cancel, Nat.add_assoc, hsum, ← hperiods.days]
    simp only [Nat.add_assoc]

/-- The date of an ordinal exists. -/
theorem valid_ofOrdinal (n : Nat) : (ofOrdinal n).Valid := (ofOrdinal_spec n).1

/-- The date of an ordinal has that ordinal. -/
theorem ordinal_ofOrdinal (n : Nat) : (ofOrdinal n).ordinal = n := (ofOrdinal_spec n).2

end TxnLog.Calendar.Date
