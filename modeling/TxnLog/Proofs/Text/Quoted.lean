import TxnLog.Proofs.Text.PrefixFree
import TxnLog.Proofs.Text.Printable
import TxnLog.Proofs.Text.Utf8
import TxnLog.Text.Quoted

/-!
# Quoted forms are read back

What stands between quotes is a sequence of `Escape`s, each of which shows one character and marks
its end. So a quoted form gives back its text or byte string, ends at its second quote that is
not escaped, and consists of printable characters.
-/

namespace TxnLog.Text.Quoted

/-! ### The forms of a character -/

/-- The character that is meant by a letter behind a backslash. -/
def short? (q k : Char) : Option Char :=
  if k = q ∨ k = '\\' then some k
  else if k = 'n' then some '\n'
  else if k = 'r' then some '\r'
  else if k = 't' then some '\t'
  else none

/-- The number of digits behind a backslash and a letter. -/
def width? (k : Char) : Option Nat :=
  if k = 'x' then some 2 else if k = 'u' then some 4 else if k = 'U' then some 8 else none

/-- The forms in which a character may be shown between quotes `q`. -/
inductive Escape (q c : Char) : List Char → Prop
  | plain (hquote : c ≠ q) (hslash : c ≠ '\\') (hprint : isPrintable c = true) : Escape q c [c]
  | short {k : Char} (hk : short? q k = some c) : Escape q c ['\\', k]
  | coded {k : Char} {width : Nat} (hk : width? k = some width) (hc : c.toNat < 16 ^ width) :
    Escape q c ('\\' :: k :: code width c.toNat)

/-- A character in use as a quote. -/
def IsQuote (q : Char) : Prop := q = single ∨ q = double

/-- The quote that is chosen is one of the two. -/
theorem isQuote_quote (hasSingle hasDouble : Bool) : IsQuote (quote hasSingle hasDouble) := by
  rw [quote]
  split
  · exact .inr rfl
  · exact .inl rfl

/-! ### Hexadecimal codes -/

/-- A code has its fixed width if its number fits. -/
theorem length_code {width n : Nat} (hwidth : 0 < width) (h : n < 16 ^ width) :
    (code width n).length = width := by
  have hlength := (Nat.length_toDigits_le_iff (by decide) hwidth).mpr h
  simp only [code, List.length_append, List.length_replicate]
  omega

/-- A code has one number only. -/
theorem code_injective (width : Nat) : Function.Injective (code width) := fun _ _ h =>
  toDigits_replicate_injective (by decide) (by decide) h

/-- A code is printable. -/
theorem isPrintable_of_mem_code {width n : Nat} {c : Char} (h : c ∈ code width n) :
    isPrintable c = true := by
  rw [code, List.mem_append, List.mem_replicate] at h
  obtain ⟨-, rfl⟩ | h := h
  · decide
  · exact forall_mem_toDigits (p := (isPrintable · = true)) (by decide) (by decide) c h

/-! ### Reading a form -/

namespace Escape

variable {q c d : Char} {e f r s : List Char}

/-- A letter that announces a code means no character by itself. -/
theorem short?_eq_none {k : Char} {width : Nat} (hq : IsQuote q) (hk : width? k = some width) :
    short? q k = none := by
  unfold width? at hk
  obtain rfl | rfl := hq <;> split_ifs at hk <;> subst_vars <;> decide

/-- A code is not empty. -/
theorem width_pos {k : Char} {width : Nat} (hk : width? k = some width) : 0 < width := by
  unfold width? at hk
  split_ifs at hk <;> injection hk <;> omega

/-- Each form shows one character and marks its end. -/
theorem eq_of_append_eq (hq : IsQuote q) (he : Escape q c e) (hf : Escape q d f)
    (h : e ++ r = f ++ s) : c = d ∧ r = s := by
  cases he with
  | plain hquote hslash hprint =>
    cases hf with
    | plain => exact List.cons.inj h
    | short => exact absurd (List.cons.inj h).1 hslash
    | coded => exact absurd (List.cons.inj h).1 hslash
  | short hk =>
    cases hf with
    | plain _ hslash => exact absurd (List.cons.inj h).1.symm hslash
    | short hk' =>
      obtain ⟨rfl, htail⟩ := List.cons.inj (List.cons.inj h).2
      exact ⟨Option.some.inj (hk.symm.trans hk'), htail⟩
    | coded hk' =>
      obtain ⟨rfl, -⟩ := List.cons.inj (List.cons.inj h).2
      rw [short?_eq_none hq hk'] at hk
      contradiction
  | coded hk hc =>
    cases hf with
    | plain _ hslash => exact absurd (List.cons.inj h).1.symm hslash
    | short hk' =>
      obtain ⟨rfl, -⟩ := List.cons.inj (List.cons.inj h).2
      rw [short?_eq_none hq hk] at hk'
      contradiction
    | coded hk' hd =>
      obtain ⟨rfl, htail⟩ := List.cons.inj (List.cons.inj h).2
      obtain rfl := Option.some.inj (hk.symm.trans hk')
      -- Two codes of one width end at the same place.
      obtain ⟨hcode, hrest⟩ := List.append_inj htail
        (by rw [length_code (width_pos hk) hc, length_code (width_pos hk) hd])
      exact ⟨Char.toNat_inj.mp (code_injective _ hcode), hrest⟩

/-- No form starts with the quote. -/
theorem ne_quote_cons (hq : IsQuote q) (he : Escape q c e) : e ++ r ≠ q :: s := by
  have hslash : '\\' ≠ q := by obtain rfl | rfl := hq <;> decide
  intro h
  cases he with
  | plain hquote => exact hquote (List.cons.inj h).1
  | short => exact hslash (List.cons.inj h).1
  | coded => exact hslash (List.cons.inj h).1

/-- Every form is printable. -/
theorem printable (hq : IsQuote q) (he : Escape q c e) : ∀ x ∈ e, isPrintable x = true := by
  have hslash : isPrintable '\\' = true := by decide
  cases he with
  | plain hquote hslash hprint =>
    intro x hx
    rwa [List.mem_singleton.mp hx]
  | @short k hk =>
    have hletter : isPrintable k = true := by
      unfold short? at hk
      obtain rfl | rfl := hq <;> split_ifs at hk with h₁ h₂ h₃ h₄ <;>
        first | (obtain rfl | rfl := h₁ <;> decide) | (subst_vars; decide)
    intro x hx
    simp only [List.mem_cons, List.not_mem_nil, or_false] at hx
    obtain rfl | rfl := hx <;> assumption
  | @coded k width hk hc =>
    have hletter : isPrintable k = true := by
      unfold width? at hk
      split_ifs at hk <;> subst_vars <;> decide
    intro x hx
    simp only [List.mem_cons] at hx
    obtain rfl | rfl | hx := hx
    · exact hslash
    · exact hletter
    · exact isPrintable_of_mem_code hx

end Escape

/-! ### Characters and bytes -/

variable {q : Char}

/-- A line break or a tab is shown by its letter. -/
theorem escape_letter (hq : IsQuote q) :
    Escape q '\n' ['\\', 'n'] ∧ Escape q '\r' ['\\', 'r'] ∧ Escape q '\t' ['\\', 't'] := by
  refine ⟨.short ?_, .short ?_, .short ?_⟩ <;> obtain rfl | rfl := hq <;> decide

/-- A character of a text is shown in one of its forms. -/
theorem escape_char (hq : IsQuote q) (c : Char) : Escape q c (char q c) := by
  obtain ⟨hn, hr, ht⟩ := escape_letter hq
  have hcode : c.toNat < 16 ^ 8 := by
    have hvalid : c.toNat.isValidChar := c.valid
    rw [Nat.isValidChar] at hvalid
    omega
  unfold char
  split_ifs with hescaped hc hc hc hprint hsmall hmiddle
  · exact .short (if_pos hescaped)
  · rw [hc]; exact hn
  · rw [hc]; exact hr
  · rw [hc]; exact ht
  · rw [not_or] at hescaped
    exact .plain hescaped.1 hescaped.2 hprint
  · exact .coded rfl hsmall
  · exact .coded rfl hmiddle
  · exact .coded rfl hcode

/-- The character with the number of a byte. -/
def ofByte (b : UInt8) : Char := Char.ofNat b.toNat

/-- The character with the number of a byte has that number. -/
theorem toNat_ofByte (b : UInt8) : (ofByte b).toNat = b.toNat := by
  have hlt : b.toNat < 256 := b.toNat_lt
  exact Utf8.toNat_ofNat (.inl (by omega))

/-- Different bytes have different characters. -/
theorem ofByte_injective : Function.Injective ofByte := by
  intro b b' h
  have hnat := congrArg Char.toNat h
  rw [toNat_ofByte, toNat_ofByte] at hnat
  exact UInt8.toNat_inj.mp hnat

/-- A byte is shown in one of the forms of its character. -/
theorem escape_byte (hq : IsQuote q) (b : UInt8) : Escape q (ofByte b) (byte q b) := by
  obtain ⟨hn, hr, ht⟩ := escape_letter hq
  have hlt : b.toNat < 256 := b.toNat_lt
  have hnat := toNat_ofByte b
  simp only [byte]
  split_ifs with hescaped hc hc hc hprint
  · exact .short (if_pos hescaped)
  · rw [show ofByte b = _ from hc]; exact hn
  · rw [show ofByte b = _ from hc]; exact hr
  · rw [show ofByte b = _ from hc]; exact ht
  · rw [not_or] at hescaped
    obtain ⟨hlow, hhigh⟩ := hprint
    rw [UInt8.le_iff_toNat_le] at hlow hhigh
    change 0x20 ≤ b.toNat at hlow
    change b.toNat ≤ 0x7e at hhigh
    exact .plain hescaped.1 hescaped.2 (isPrintable_of_ascii (by omega) (by omega))
  · rw [← hnat]
    exact .coded rfl (by omega)

/-! ### Sequences of forms -/

section Sequence

variable {α : Type} {meant : α → Char} {escape : α → List Char}

/-- Forms in a sequence are read one by one up to the quote. -/
theorem eq_of_flatMap_eq (hq : IsQuote q) (hmeant : Function.Injective meant)
    (hescape : ∀ a, Escape q (meant a) (escape a)) {as bs : List α} {r s : List Char}
    (h : as.flatMap escape ++ q :: r = bs.flatMap escape ++ q :: s) : as = bs ∧ r = s := by
  induction as generalizing bs with
  | nil =>
    cases bs with
    | nil => exact ⟨rfl, (List.cons.inj h).2⟩
    | cons b bs =>
      rw [List.flatMap_cons, List.append_assoc] at h
      exact absurd h.symm ((hescape b).ne_quote_cons hq)
  | cons a as ih =>
    cases bs with
    | nil =>
      rw [List.flatMap_cons, List.append_assoc] at h
      exact absurd h ((hescape a).ne_quote_cons hq)
    | cons b bs =>
      rw [List.flatMap_cons, List.flatMap_cons, List.append_assoc, List.append_assoc] at h
      obtain ⟨hab, hrest⟩ := (hescape a).eq_of_append_eq hq (hescape b) h
      obtain ⟨rfl, rfl⟩ := ih hrest
      exact ⟨congrArg (· :: as) (hmeant hab), rfl⟩

/-- A sequence of forms between quotes is printable. -/
theorem isPrintable_of_mem_quoted (hq : IsQuote q) (hescape : ∀ a, Escape q (meant a) (escape a))
    (as : List α) : ∀ c ∈ q :: (as.flatMap escape ++ [q]), isPrintable c = true := by
  have hquote : isPrintable q = true := by obtain rfl | rfl := hq <;> decide
  intro c hc
  rw [List.mem_cons, List.mem_append, List.mem_singleton, List.mem_flatMap] at hc
  obtain rfl | ⟨a, -, hc⟩ | rfl := hc
  · exact hquote
  · exact (hescape a).printable hq c hc
  · exact hquote

end Sequence

/-! ### Texts and byte strings -/

/-- A quoted text marks its end. -/
theorem prefixFree_text : PrefixFree text := by
  intro s s' r r' h
  have hlist := congrArg String.toList h
  simp only [text, String.toList_append, String.toList_ofList, List.cons_append,
    List.append_assoc, List.nil_append, List.cons.injEq] at hlist
  obtain ⟨hquote, hrest⟩ := hlist
  have hq := isQuote_quote (s.toList.contains single) (s.toList.contains double)
  rw [← hquote] at hrest
  obtain ⟨hs, hr⟩ := eq_of_flatMap_eq hq Function.injective_id (escape_char hq) hrest
  exact ⟨String.toList_injective hs, String.toList_injective hr⟩

/-- A quoted byte string marks its end. -/
theorem prefixFree_bytes : PrefixFree bytes := by
  intro bs bs' r r' h
  have hlist := congrArg String.toList h
  simp only [bytes, String.toList_append, String.toList_ofList, List.cons_append,
    List.append_assoc, List.nil_append, List.cons.injEq, true_and] at hlist
  obtain ⟨hquote, hrest⟩ := hlist
  have hq := isQuote_quote (bs.contains 0x27) (bs.contains 0x22)
  rw [← hquote] at hrest
  obtain ⟨hbs, hr⟩ := eq_of_flatMap_eq hq ofByte_injective (escape_byte hq) hrest
  exact ⟨hbs, String.toList_injective hr⟩

/-- A quoted text starts with a quote. -/
theorem opens_text (s : String) : ∃ q, IsQuote q ∧ Opens (text s) q :=
  ⟨_, isQuote_quote _ _, by rw [Opens, text, String.toList_ofList]; rfl⟩

/-- A quoted text is printable. -/
@[simp]
theorem printable_text (s : String) : Printable (text s) := by
  rw [Printable, text, String.toList_ofList]
  have hq := isQuote_quote (s.toList.contains single) (s.toList.contains double)
  exact isPrintable_of_mem_quoted hq (escape_char hq) s.toList

/-- A quoted byte string is printable. -/
@[simp]
theorem printable_bytes (bs : Bytes) : Printable (bytes bs) := by
  rw [Printable, bytes, String.toList_ofList]
  have hq := isQuote_quote (bs.contains 0x27) (bs.contains 0x22)
  rw [List.forall_mem_cons]
  exact ⟨by decide, isPrintable_of_mem_quoted hq (escape_byte hq) bs⟩

end TxnLog.Text.Quoted
