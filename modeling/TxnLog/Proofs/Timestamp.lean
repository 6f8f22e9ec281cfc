import TxnLog.Proofs.Calendar
import TxnLog.Proofs.Text.PrefixFree
import TxnLog.Timestamp

/-!
# Timestamps are read back

A moment gives back the milliseconds that it was made from (`toMillis_ofMillis?`), and its text
gives back the moment: every field but the year has zeros in front, and each ends before a
character that is not a digit. So no two times are shown alike, be they in the range of the
calendar or not (`prefixFree_render`).
-/

namespace TxnLog.Timestamp

open Text

variable {t t' : Timestamp} {r s : String} {ms : Int}

/-! ### Moments -/

/-- A moment is on an existing date, at a time of the day, so many milliseconds after the start of
1970. -/
theorem ofMillis?_eq_some (h : ofMillis? ms = some t) :
    t.date.Valid ∧ t.millis < dayLength ∧ t.toMillis = ms := by
  rw [ofMillis?] at h
  split at h
  · next hrange =>
    obtain rfl := Option.some.inj h
    have hday : ((ms / dayLength + Calendar.epoch).toNat : Int) = ms / dayLength + Calendar.epoch :=
      Int.toNat_of_nonneg hrange.1
    have hmillis : ((ms % dayLength).toNat : Int) = ms % dayLength :=
      Int.toNat_of_nonneg (Int.emod_nonneg ms (by decide))
    have hlt : ms % dayLength < dayLength := Int.emod_lt_of_pos ms (by decide)
    refine ⟨Calendar.Date.valid_ofOrdinal _, ?_, ?_⟩
    · show (ms % dayLength).toNat < dayLength
      omega
    rw [toMillis, Calendar.Date.ordinal_ofOrdinal, hday, hmillis, Int.add_sub_cancel, Int.mul_comm]
    exact Int.mul_ediv_add_emod ms dayLength
  · contradiction

/-! ### Their texts -/

/-- The text of a moment gives back the moment and marks its end. -/
theorem eq_of_text_append (ht : t.millis < dayLength) (ht' : t'.millis < dayLength)
    (h : t.text ++ r = t'.text ++ s) : t = t' ∧ r = s := by
  obtain ⟨⟨year, month, day⟩, millis⟩ := t
  obtain ⟨⟨year', month', day'⟩, millis'⟩ := t'
  simp only [text, decimal_natCast_eq, String.append_assoc] at h
  obtain ⟨rfl, hmonth⟩ := padded_before h rfl
  obtain ⟨rfl, hday⟩ := padded_before hmonth rfl
  obtain ⟨rfl, hclock⟩ := padded_before hday rfl
  obtain ⟨hhours, hclock⟩ := padded_before hclock rfl
  obtain ⟨hminutes, hclock⟩ := padded_before hclock rfl
  obtain ⟨hseconds, hclock⟩ := padded_before hclock rfl
  obtain ⟨hmillis, hend⟩ := padded_before hclock rfl
  -- Hours, minutes and seconds are the digits of the seconds since midnight.
  obtain rfl : millis = millis' := by omega
  exact ⟨rfl, hend⟩

/-- A date starts with a digit. -/
theorem text_ne_invalid (t : Timestamp) (r x : String) : t.text ++ r ≠ "<invalid time " ++ x := by
  obtain ⟨c, hdigit, hc⟩ := opens_decimalPadded 0 t.date.year
  have hdate : Opens t.text c := by
    simp only [text, decimal_natCast_eq, String.append_assoc]
    exact hc.append _
  have hinvalid : Opens "<invalid time " '<' := rfl
  exact hdate.append_ne hinvalid (by rintro rfl; exact absurd hdigit (by decide)) r x

/-- Every time marks its end where it is shown. -/
theorem prefixFree_render : PrefixFree render := by
  intro a b r s h
  cases ha : ofMillis? a <;> cases hb : ofMillis? b <;> simp only [render, ha, hb] at h
  case none.none =>
    simp only [String.append_assoc, String.append_right_inj] at h
    exact decimal_before h rfl
  case none.some t =>
    rw [String.append_assoc, String.append_assoc] at h
    exact absurd h.symm (text_ne_invalid t _ _)
  case some.none t =>
    rw [String.append_assoc, String.append_assoc] at h
    exact absurd h (text_ne_invalid t _ _)
  case some.some t t' =>
    obtain ⟨-, hlt, hms⟩ := ofMillis?_eq_some ha
    obtain ⟨-, hlt', hms'⟩ := ofMillis?_eq_some hb
    obtain ⟨rfl, hrest⟩ := eq_of_text_append hlt hlt' h
    exact ⟨hms.symm.trans hms', hrest⟩

end TxnLog.Timestamp
