import Mathlib.Data.List.Lex
import Mathlib.Logic.Function.Iterate
import Mathlib.Order.Monotone.Basic
import TxnLog.Proofs.Calendar

/-!
# The days one after another

`Date.next` turns the pages of the calendar: day by day to the end of the month, month by month to
the end of the year. Each page adds one to the ordinal (`next_spec`), and dates that are later,
compared by year, month and day, have larger ordinals (`ordinal_lt_iff`). So the difference of two
ordinals is the number of days between the dates, counted on the calendar (`daysTo_iff`).
-/

namespace TxnLog.Calendar.Date

variable {d d' : Date} {leap : Bool} {month month' year year' : Nat}

/-! ### Months and years -/

/-- After a month, its days are over too. -/
theorem daysBeforeMonth_succ (h : 1 ≤ month) :
    daysBeforeMonth leap (month + 1)
      = daysBeforeMonth leap month + (monthLengths leap).getD (month - 1) 0 := by
  obtain ⟨k, rfl⟩ := Nat.exists_eq_add_of_le' h
  rw [daysBeforeMonth_eq, daysBeforeMonth_eq, Nat.add_sub_cancel, Nat.add_sub_cancel,
    List.take_add_one, List.sum_append, List.getD_eq_getElem?_getD]
  cases (monthLengths leap)[k]? <;> simp

/-- Later months have more days before them. -/
theorem daysBeforeMonth_mono (leap : Bool) : Monotone (daysBeforeMonth leap) := by
  refine monotone_nat_of_le_succ fun month => ?_
  cases month with
  | zero => exact Nat.le_refl _
  | succ k =>
    rw [daysBeforeMonth_succ (Nat.succ_pos k)]
    exact Nat.le_add_right _ _

/-- After a year, all days of its months are over: each of the three quotients steps up where the
leap year rule asks for its divisor. -/
theorem daysBeforeYear_succ (h : 1 ≤ year) :
    daysBeforeYear (year + 1) = daysBeforeYear year + daysBeforeMonth (isLeap year) 13 := by
  obtain ⟨k, rfl⟩ := Nat.exists_eq_add_of_le' h
  have hleap : isLeap (k + 1) = true ↔ 4 ∣ k + 1 ∧ (¬ 100 ∣ k + 1 ∨ 400 ∣ k + 1) := by
    simp [isLeap, Nat.dvd_iff_mod_eq_zero]
  have h100 : 100 ∣ k + 1 → 4 ∣ k + 1 := Nat.dvd_trans (by decide)
  have h400 : 400 ∣ k + 1 → 100 ∣ k + 1 := Nat.dvd_trans (by decide)
  have hle : k / 100 ≤ k * 365 + k / 4 := by omega
  have hlength : daysBeforeMonth (isLeap (k + 1)) 13 = if isLeap (k + 1) then 366 else 365 := by
    cases isLeap (k + 1) <;> rfl
  simp only [daysBeforeYear, Nat.add_sub_cancel, Nat.succ_div, hlength, hleap]
  generalize k / 4 = q4, k / 100 = q100, k / 400 = q400 at *
  split_ifs <;> omega

/-- Later years have more days before them. -/
theorem daysBeforeYear_mono : Monotone daysBeforeYear := by
  refine monotone_nat_of_le_succ fun year => ?_
  cases year with
  | zero => exact Nat.le_refl _
  | succ k =>
    rw [daysBeforeYear_succ (Nat.succ_pos k)]
    exact Nat.le_add_right _ _

/-! ### The order of dates -/

/-- Year, month and day, by which dates are compared. -/
def fields (d : Date) : List Nat := [d.year, d.month, d.day]

/-- A date is its fields. -/
theorem fields_injective : Function.Injective fields := by
  rintro ⟨year, month, day⟩ ⟨year', month', day'⟩ h
  simp only [fields, List.cons.injEq, and_true] at h
  obtain ⟨rfl, rfl, rfl⟩ := h
  rfl

/-- The day is one of its month. -/
theorem Valid.day_lt (h : d.Valid) :
    daysBeforeMonth (isLeap d.year) d.month + (d.day - 1)
      < daysBeforeMonth (isLeap d.year) (d.month + 1) := by
  obtain ⟨-, hmonth, -, hday, hlength⟩ := h
  rw [daysBeforeMonth_succ hmonth]
  omega

/-- The day is one of its year. -/
theorem Valid.ordinal_lt (h : d.Valid) : d.ordinal < daysBeforeYear (d.year + 1) := by
  have hmonth : d.month + 1 ≤ 13 := Nat.succ_le_succ h.2.2.1
  calc d.ordinal
      = daysBeforeYear d.year + (daysBeforeMonth (isLeap d.year) d.month + (d.day - 1)) :=
        Nat.add_assoc _ _ _
    _ < daysBeforeYear d.year + daysBeforeMonth (isLeap d.year) (d.month + 1) :=
        Nat.add_lt_add_left h.day_lt _
    _ ≤ daysBeforeYear d.year + daysBeforeMonth (isLeap d.year) 13 :=
        Nat.add_le_add_left (daysBeforeMonth_mono _ hmonth) _
    _ = daysBeforeYear (d.year + 1) := (daysBeforeYear_succ h.1).symm

/-- A later date has a larger ordinal. -/
theorem ordinal_lt_of_fields_lt (h : d.Valid) (h' : d'.Valid) (hlt : d.fields < d'.fields) :
    d.ordinal < d'.ordinal := by
  obtain ⟨year, month, day⟩ := d
  obtain ⟨year', month', day'⟩ := d'
  simp only [fields, List.cons_lt_cons_iff, List.not_lt_nil, and_false, or_false] at hlt
  obtain hyear | ⟨rfl, hmonth | ⟨rfl, hday⟩⟩ := hlt
  · -- All days of the earlier year are before the first of the later one.
    calc ordinal ⟨year, month, day⟩ < daysBeforeYear (year + 1) := h.ordinal_lt
      _ ≤ daysBeforeYear year' := daysBeforeYear_mono hyear
      _ ≤ ordinal ⟨year', month', day'⟩ := by
        rw [ordinal, Nat.add_assoc]
        exact Nat.le_add_right _ _
  · -- So are those of the earlier month before the later one.
    have hbefore := daysBeforeMonth_mono (isLeap year) hmonth
    have hday := h.day_lt
    simp only [Nat.succ_eq_add_one] at hbefore
    simp only [ordinal] at hday ⊢
    omega
  · have hone : 1 ≤ day := h.2.2.2.1
    simp only [ordinal]
    omega

/-- Dates are in the order of their ordinals. -/
theorem ordinal_lt_iff (h : d.Valid) (h' : d'.Valid) :
    d.ordinal < d'.ordinal ↔ d.fields < d'.fields := by
  refine ⟨fun hlt => ?_, ordinal_lt_of_fields_lt h h'⟩
  obtain hfields | hfields | hfields := lt_trichotomy d.fields d'.fields
  · exact hfields
  · rw [fields_injective hfields] at hlt
    exact absurd hlt (lt_irrefl _)
  · exact absurd hlt (ordinal_lt_of_fields_lt h' h hfields).not_gt

/-- A date is determined by its ordinal. -/
theorem eq_of_ordinal_eq (h : d.Valid) (h' : d'.Valid) (heq : d.ordinal = d'.ordinal) : d = d' := by
  obtain hlt | hfields | hlt := lt_trichotomy d.fields d'.fields
  · exact absurd heq (ordinal_lt_of_fields_lt h h' hlt).ne
  · exact fields_injective hfields
  · exact absurd heq (ordinal_lt_of_fields_lt h' h hlt).ne'

/-! ### Counting on the calendar -/

/-- The day after. -/
def next (d : Date) : Date :=
  if d.day < (monthLengths (isLeap d.year)).getD (d.month - 1) 0 then
    ⟨d.year, d.month, d.day + 1⟩
  else if d.month < 12 then ⟨d.year, d.month + 1, 1⟩
  else ⟨d.year + 1, 1, 1⟩

/-- Every month has a first day. -/
theorem getD_monthLengths_pos (leap : Bool) (h : month < 12) :
    1 ≤ (monthLengths leap).getD month 0 := by
  revert month
  cases leap <;> decide

/-- The day after exists and has the next ordinal. -/
theorem next_spec (h : d.Valid) : d.next.Valid ∧ d.next.ordinal = d.ordinal + 1 := by
  obtain ⟨year, month, day⟩ := d
  obtain ⟨hyear, hmonth, hmonth', hday, hlength⟩ := h
  simp only at hyear hmonth hmonth' hday hlength
  have hsucc := @daysBeforeMonth_succ (isLeap year) month hmonth
  rw [next]
  split
  · -- The month goes on.
    next hlt =>
    refine ⟨⟨hyear, hmonth, hmonth', Nat.succ_pos day, hlt⟩, ?_⟩
    simp only [ordinal]
    omega
  · next hlast =>
    simp only at hlast
    split
    · -- The year goes on with the next month.
      next hlt =>
      refine ⟨⟨hyear, Nat.succ_pos month, hlt, Nat.le_refl 1, getD_monthLengths_pos _ hlt⟩, ?_⟩
      simp only [ordinal]
      omega
    · -- It was the last day of the year.
      next hend =>
      obtain rfl : month = 12 := Nat.le_antisymm hmonth' (Nat.le_of_not_lt hend)
      have hjanuary : (1 : Nat) - 1 < 12 := by decide
      refine ⟨⟨Nat.succ_pos year, Nat.le_refl 1, hmonth, Nat.le_refl 1,
        getD_monthLengths_pos _ hjanuary⟩, ?_⟩
      have hbefore : daysBeforeMonth (isLeap (year + 1)) 1 = 0 := rfl
      simp only [ordinal, daysBeforeYear_succ hyear, hbefore]
      simp only [Nat.reduceAdd] at hsucc
      omega

/-- Turning `n` pages adds `n` to the ordinal. -/
theorem iterate_next_spec (h : d.Valid) (n : Nat) :
    (next^[n] d).Valid ∧ (next^[n] d).ordinal = d.ordinal + n := by
  induction n with
  | zero => exact ⟨h, rfl⟩
  | succ n ih =>
    obtain ⟨hvalid, hordinal⟩ := ih
    rw [Function.iterate_succ_apply', (next_spec hvalid).2, hordinal, Nat.add_assoc]
    exact ⟨(next_spec hvalid).1, rfl⟩

/-- It is `n` days from `d` to `d'`, and backwards if `n` is negative. -/
def DaysTo (d : Date) (n : Int) (d' : Date) : Prop := next^[n.toNat] d = next^[(-n).toNat] d'

/-- The days from one date to another are the difference of the ordinals. -/
theorem daysTo_iff (h : d.Valid) (h' : d'.Valid) {n : Int} :
    d.DaysTo n d' ↔ (d'.ordinal : Int) - d.ordinal = n := by
  obtain ⟨hvalid, hordinal⟩ := iterate_next_spec h n.toNat
  obtain ⟨hvalid', hordinal'⟩ := iterate_next_spec h' (-n).toNat
  constructor
  · intro hn
    rw [DaysTo] at hn
    rw [hn, hordinal'] at hordinal
    omega
  · intro hn
    refine eq_of_ordinal_eq hvalid hvalid' ?_
    omega

end TxnLog.Calendar.Date
