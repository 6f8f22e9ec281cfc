import Mathlib.Data.List.Basic
import TxnLog.Proofs.Text.Digits

/-!
# Texts that mark their end

`Marks write a` says that `write a` shows where it ends: a text that starts with it starts with no
other one that `write` gives. Texts that are put together from such parts and fixed words are read
back part by part (`Marks.before`). A numeral does not mark its end by itself, but it does with a
word behind it that starts with no digit (`decimal_before`).
-/

namespace TxnLog.Text

variable {α : Type} {write : α → String} {a b : α} {r s : String}

/-! ### First characters -/

/-- The text starts with the character. -/
def Opens (x : String) (c : Char) : Prop := x.toList.head? = some c

/-- What stands behind a text does not change its start. -/
theorem Opens.append {x : String} {c : Char} (h : Opens x c) (r : String) : Opens (x ++ r) c := by
  rw [Opens, String.toList_append, List.head?_append, h]
  rfl

/-- A text starts with one character. -/
theorem Opens.unique {x : String} {c d : Char} (hc : Opens x c) (hd : Opens x d) : c = d :=
  Option.some.inj (hc.symm.trans hd)

/-- Texts with different first characters differ, whatever stands behind them. -/
theorem Opens.append_ne {x y : String} {c d : Char} (hx : Opens x c) (hy : Opens y d) (hne : c ≠ d)
    (r s : String) : x ++ r ≠ y ++ s := fun h =>
  hne ((hx.append r).unique (h ▸ hy.append s))

/-- A text that starts with a character is that character and a rest. -/
theorem Opens.exists_toList {x : String} {c : Char} (h : Opens x c) :
    ∃ cs, x.toList = c :: cs := List.head?_eq_some_iff.mp h

/-- The end of a list starts with the closing bracket. -/
theorem opens_closing : Opens "]" ']' := rfl

/-! ### Words -/

/-- Characters up to the first one of a kind are found in a list. -/
theorem eq_of_append_cons_eq {c : Char} {xs ys cs ds : List Char} (hx : c ∉ xs) (hy : c ∉ ys)
    (h : xs ++ c :: cs = ys ++ c :: ds) : xs = ys ∧ cs = ds := by
  induction xs generalizing ys with
  | nil =>
    cases ys with
    | nil => exact ⟨rfl, (List.cons.inj h).2⟩
    | cons y ys => exact absurd (List.mem_cons.mpr (.inl (List.cons.inj h).1)) hy
  | cons x xs ih =>
    cases ys with
    | nil => exact absurd (List.mem_cons.mpr (.inl (List.cons.inj h).1.symm)) hx
    | cons y ys =>
      obtain ⟨rfl, htail⟩ := List.cons.inj h
      rw [List.mem_cons, not_or] at hx hy
      obtain ⟨rfl, rfl⟩ := ih hx.2 hy.2 htail
      exact ⟨rfl, rfl⟩

/-- A word ends where another one starts with a character that is not in it. -/
theorem eq_of_append_eq {x y stop : String} {c : Char} (hstop : Opens stop c)
    (hx : c ∉ x.toList) (hy : c ∉ y.toList) (h : x ++ (stop ++ r) = y ++ (stop ++ s)) :
    x = y ∧ r = s := by
  obtain ⟨cs, hcs⟩ := hstop.exists_toList
  have hlist := congrArg String.toList h
  simp only [String.toList_append, hcs, List.cons_append] at hlist
  obtain ⟨hword, hrest⟩ := eq_of_append_cons_eq hx hy hlist
  exact ⟨String.toList_injective hword, String.toList_injective (List.append_cancel_left hrest)⟩

/-! ### Marked ends -/

/-- A text that starts with `write a` starts with no other text that `write` gives. -/
def Marks (write : α → String) (a : α) : Prop :=
  ∀ ⦃b : α⦄ ⦃r s : String⦄, write a ++ r = write b ++ s → a = b ∧ r = s

/-- All texts that `write` gives mark their ends. -/
def PrefixFree (write : α → String) : Prop := ∀ a, Marks write a

/-- Where all texts mark their ends, different ones are written for different values. -/
theorem PrefixFree.injective (h : PrefixFree write) : Function.Injective write :=
  fun a _ hab => (h a (congrArg (· ++ "") hab)).1

/-- A part that marks its end is found before a fixed word. -/
theorem Marks.before {stop : String} (ha : Marks write a)
    (h : write a ++ (stop ++ r) = write b ++ (stop ++ s)) : a = b ∧ r = s :=
  (ha h).imp_right (String.append_right_inj stop).mp

/-- A part is found before a word if it does not hold the character at which the word starts. -/
theorem before_of_notMem (hwrite : Function.Injective write) {c : Char}
    (hfree : ∀ a, c ∉ (write a).toList) {stop : String} (hstop : Opens stop c)
    (h : write a ++ (stop ++ r) = write b ++ (stop ++ s)) : a = b ∧ r = s :=
  (eq_of_append_eq hstop (hfree a) (hfree b) h).imp_left fun hword => hwrite hword

/-- The characters that stand in decimal numerals. -/
def inDecimal (c : Char) : Bool := c.isDigit || c == '-'

/-- A decimal numeral holds no other characters. -/
theorem notMem_decimal {c : Char} (h : inDecimal c = false) (n : Int) :
    c ∉ (decimal n).toList := by
  intro hc
  have hin := forall_mem_decimal (p := (inDecimal · = true)) (by decide) (by decide) n c hc
  exact Bool.false_ne_true (h.symm.trans hin)

/-- A decimal numeral is found before a word that starts with no digit. -/
theorem decimal_before {m n : Int} {stop : String}
    (h : decimal m ++ (stop ++ r) = decimal n ++ (stop ++ s))
    (hstop : stop.toList.head?.map inDecimal = some false) : m = n ∧ r = s := by
  obtain ⟨c, hc, hdigit⟩ := Option.map_eq_some_iff.mp hstop
  exact before_of_notMem decimal_injective (notMem_decimal hdigit) hc h

/-- A decimal numeral is found behind a colon. -/
theorem decimal_behind {m n : Int} (h : r ++ (":" ++ decimal m) = s ++ (":" ++ decimal n)) :
    m = n := by
  have hcolon (n : Int) : ':' ∉ (decimal n).toList.reverse := by
    rw [List.mem_reverse]
    exact notMem_decimal (by decide) n
  -- Read backwards, the colon is where the digits end.
  have hlist := congrArg (fun x => x.toList.reverse) h
  simp only [String.toList_append, List.reverse_append, List.append_assoc] at hlist
  have hdigits := (eq_of_append_cons_eq (hcolon m) (hcolon n) hlist).1
  exact decimal_injective (String.toList_injective (List.reverse_injective hdigits))

/-- A padded numeral is found before a word that starts with no digit. -/
theorem padded_before {width m n : Nat} {stop : String}
    (h : decimalPadded width m ++ (stop ++ r) = decimalPadded width n ++ (stop ++ s))
    (hstop : stop.toList.head?.map Char.isDigit = some false) : m = n ∧ r = s := by
  obtain ⟨c, hc, hdigit⟩ := Option.map_eq_some_iff.mp hstop
  have hfree (n : Nat) : c ∉ (decimalPadded width n).toList := fun hmem =>
    Bool.false_ne_true (hdigit.symm.trans (isDigit_of_mem_decimalPadded hmem))
  exact before_of_notMem (decimalPadded_injective width) hfree hc h

/-- A padded numeral starts with a digit. -/
theorem opens_decimalPadded (width n : Nat) :
    ∃ c, c.isDigit = true ∧ Opens (decimalPadded width n) c := by
  have hne : (decimalPadded width n).toList ≠ [] := by
    rw [toList_decimalPadded]
    exact List.append_ne_nil_of_right_ne_nil _ Nat.toDigits_ne_nil
  obtain ⟨c, cs, hcs⟩ := List.exists_cons_of_ne_nil hne
  have hmem : c ∈ (decimalPadded width n).toList := by
    rw [hcs]
    exact List.mem_cons_self
  exact ⟨c, isDigit_of_mem_decimalPadded hmem, by rw [Opens, hcs]; rfl⟩

/-! ### Lists -/

/-- Further items of a list, each behind a comma, and the end of the list. -/
def restOfList : List String → String
  | [] => "]"
  | x :: xs => ", " ++ (x ++ restOfList xs)

/-- The items of a list, with commas between them, and its end. -/
def itemsOfList : List String → String
  | [] => "]"
  | x :: xs => x ++ restOfList xs

/-- Items with commas between them are read item by item. -/
theorem intercalate_append (xs : List String) :
    ", ".intercalate xs ++ "]" = itemsOfList xs := by
  cases xs with
  | nil => rfl
  | cons x xs =>
    rw [itemsOfList]
    induction xs generalizing x with
    | nil => rw [String.intercalate_singleton, restOfList]
    | cons y ys ih =>
      rw [String.intercalate_cons_cons, String.append_assoc, ih y, restOfList, String.append_assoc]

/-- Further items mark the end of the list if each marks its own. -/
theorem marks_restOfList {as : List α} (has : ∀ a ∈ as, Marks write a) :
    Marks (fun as => restOfList (as.map write)) as := by
  have hcomma : Opens ", " ',' := rfl
  have hends (x r s : String) : "]" ++ r ≠ ", " ++ x ++ s :=
    opens_closing.append_ne (hcomma.append x) (by decide) r s
  induction as with
  | nil =>
    intro bs r s h
    cases bs with
    | nil => exact ⟨rfl, (String.append_right_inj _).mp h⟩
    | cons b bs => exact absurd h (hends _ r s)
  | cons a as ih =>
    intro bs r s h
    rw [List.forall_mem_cons] at has
    cases bs with
    | nil => exact absurd h.symm (hends _ s r)
    | cons b bs =>
      simp only [List.map_cons, restOfList, String.append_assoc] at h
      obtain ⟨rfl, hrest⟩ := has.1 ((String.append_right_inj _).mp h)
      obtain ⟨rfl, rfl⟩ := ih has.2 hrest
      exact ⟨rfl, rfl⟩

/-- A list marks its end if each item does and none starts with the closing bracket. -/
theorem marks_itemsOfList {as : List α} (has : ∀ a ∈ as, Marks write a)
    (hopen : ∀ a, ∃ c, c ≠ ']' ∧ Opens (write a) c) :
    Marks (fun as => itemsOfList (as.map write)) as := by
  have hends (a : α) (x r s : String) : "]" ++ r ≠ write a ++ x ++ s := by
    obtain ⟨c, hc, hwrite⟩ := hopen a
    exact opens_closing.append_ne (hwrite.append x) hc.symm r s
  intro bs r s h
  cases as <;> cases bs
  case nil.nil => exact ⟨rfl, (String.append_right_inj _).mp h⟩
  case nil.cons b bs => exact absurd h (hends b _ r s)
  case cons.nil a as => exact absurd h.symm (hends a _ s r)
  case cons.cons a as b bs =>
    rw [List.forall_mem_cons] at has
    simp only [List.map_cons, itemsOfList, String.append_assoc] at h
    obtain ⟨rfl, hrest⟩ := has.1 h
    obtain ⟨rfl, rfl⟩ := marks_restOfList has.2 hrest
    exact ⟨rfl, rfl⟩

end TxnLog.Text
