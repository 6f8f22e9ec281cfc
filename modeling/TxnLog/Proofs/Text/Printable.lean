import TxnLog.Proofs.Text.Digits
import TxnLog.Text.Printable

/-!
# Printable texts

A text is printable if all its characters are. No printable character controls a terminal or ends
a line, so a printable text stays on one line wherever it is shown.
-/

namespace TxnLog.Text

/-! ### Characters -/

/-- The control characters, those below the space and around the end of the first 128 included. -/
def IsControl (c : Char) : Prop := c.toNat < 0x20 ∨ (0x7f ≤ c.toNat ∧ c.toNat < 0xa0)

/-- The characters that end a line for some reader: line feed and return, the vertical and the form
feed, three separators of records, and the line breaks beyond ASCII. -/
def IsLineBreak (c : Char) : Prop :=
  c.toNat ∈ [0xa, 0xb, 0xc, 0xd, 0x1c, 0x1d, 0x1e, 0x85, 0x2028, 0x2029]

/-- The printable characters of ASCII are those from the space to the tilde. -/
theorem isPrintable_of_ascii {c : Char} (hlow : 0x20 ≤ c.toNat) (hhigh : c.toNat < 0x7f) :
    isPrintable c = true := by
  rw [isPrintable, if_pos hhigh]
  exact decide_eq_true hlow

/-- A printable character is one of ASCII or lies beyond the controls that follow it. -/
theorem range_of_isPrintable {c : Char} (h : isPrintable c = true) :
    (0x20 ≤ c.toNat ∧ c.toNat < 0x7f) ∨ 0xa1 ≤ c.toNat := by
  rw [isPrintable] at h
  split at h
  · next hascii => exact .inl ⟨of_decide_eq_true h, hascii⟩
  · split at h
    · contradiction
    · next hlatin => exact .inr (Nat.le_of_not_lt hlatin)

/-- A printable character beyond ASCII is outside all ranges of the table. -/
theorem outside_of_isPrintable {c : Char} (h : isPrintable c = true) (hlatin : 0xa1 ≤ c.toNat)
    {low high : Nat} (hrange : (low, high) ∈ unprintableRanges) :
    c.toNat < low ∨ high < c.toNat := by
  rw [isPrintable, if_neg (by omega), if_neg (by omega)] at h
  simpa using List.all_eq_true.mp h (low, high) hrange

/-- A printable character is no control character. -/
theorem not_isControl_of_isPrintable {c : Char} (h : isPrintable c = true) : ¬ IsControl c := by
  have hrange := range_of_isPrintable h
  rw [IsControl]
  omega

/-- A printable character ends no line. -/
theorem not_isLineBreak_of_isPrintable {c : Char} (h : isPrintable c = true) :
    ¬ IsLineBreak c := by
  have hrange := range_of_isPrintable h
  have hseparators : 0xa1 ≤ c.toNat → c.toNat < 0x2028 ∨ 0x202f < c.toNat := fun hlatin =>
    outside_of_isPrintable h hlatin (by decide)
  simp only [IsLineBreak, List.mem_cons, List.not_mem_nil, or_false]
  omega

/-! ### Texts -/

/-- All characters of the text are printable. -/
def Printable (s : String) : Prop := ∀ c ∈ s.toList, isPrintable c = true

instance (s : String) : Decidable (Printable s) :=
  decidable_of_iff (s.toList.all isPrintable = true) List.all_eq_true

/-- A text is printable if its parts are. -/
@[simp]
theorem printable_append {s s' : String} : Printable (s ++ s') ↔ Printable s ∧ Printable s' := by
  simp only [Printable, String.toList_append, List.mem_append, or_imp, forall_and]

/-- A decimal numeral is printable. -/
@[simp]
theorem printable_decimal (n : Int) : Printable (decimal n) :=
  forall_mem_decimal (by decide) (by decide) n

end TxnLog.Text
