import Mathlib.Data.List.Nodup
import Mathlib.Tactic.Ring
import TxnLog.Proofs.BigEndian
import TxnLog.Text.Base64

/-!
# Base64 is read back

The form `encode` gives bytes is the standard one (`standard_encode`): read as digits of six bits,
its characters are the number that the bytes are, with zero bits behind it up to a whole character,
and padding completes the last group of four. `decode?` takes it back to the bytes
(`decode?_encode`). Both go through the bytes three at a time, as the encoder does.
-/

namespace TxnLog.Text.Base64

/-! ### The standard form -/

/-- The characters in the order of their numbers. -/
def alphabet : List Char :=
  "ABCDEFGHIJKLMNOPQRSTUVWXYZabcdefghijklmnopqrstuvwxyz0123456789+/".toList

/-- The number whose base-64 digits, most significant first, are given. -/
def number (digits : List Nat) : Nat := digits.foldl (fun n d => n * 64 + d) 0

/-- The characters and the padding behind them are the standard form of the bytes. -/
structure Form (bs : Bytes) (chars : List Char) (padding : Nat) : Prop where
  /-- All characters are of the alphabet. -/
  mem_alphabet : ∀ c ∈ chars, c ∈ alphabet
  /-- They have six bits each, two more than the bytes for every sign of padding. -/
  bits : 6 * chars.length = 8 * bs.length + 2 * padding
  /-- These bits are the ones of the bytes, and zeros behind them. -/
  number_eq : number (chars.map (alphabet.idxOf ·)) = BigEndian.toNat bs * 4 ^ padding
  /-- The padding completes a group. -/
  padding_le : padding ≤ 2
  /-- There are whole groups of four. -/
  groups : 4 ∣ chars.length + padding

/-- The text is the standard form of the bytes. -/
def Standard (text : String) (bs : Bytes) : Prop :=
  ∃ chars padding, text.toList = chars ++ List.replicate padding '=' ∧ Form bs chars padding

/-! ### Digits -/

/-- The digits are the characters of the alphabet in their order. -/
theorem alphabet_eq : alphabet = (List.range 64).map digit := by decide +kernel

/-- A digit is read as its number. -/
theorem value?_digit : ∀ d < 64, value? (digit d) = some d := by decide

/-- A digit is of the alphabet. -/
theorem digit_mem_alphabet {d : Nat} (h : d < 64) : digit d ∈ alphabet := by
  rw [alphabet_eq]
  exact List.mem_map_of_mem (List.mem_range.mpr h)

/-- No character stands for two numbers. -/
theorem nodup_alphabet : alphabet.Nodup := by
  rw [alphabet_eq]
  refine List.nodup_range.map_on fun d hd e he h => ?_
  have hvalue := congrArg value? h
  rw [value?_digit d (List.mem_range.mp hd), value?_digit e (List.mem_range.mp he)] at hvalue
  exact Option.some.inj hvalue

/-- A digit stands at its place of the alphabet. -/
theorem idxOf_digit {d : Nat} (h : d < 64) : alphabet.idxOf (digit d) = d := by
  have hlength : d < alphabet.length := by simpa [alphabet_eq] using h
  have hget : alphabet[d] = digit d := by simp [alphabet_eq]
  rw [← hget]
  exact nodup_alphabet.idxOf_getElem d hlength

/-- Padding is no digit. -/
theorem digit_ne_padding : ∀ d < 64, digit d ≠ '=' := by decide

/-- Digits in front of others count as many times their capacity. -/
theorem number_append (ds es : List Nat) :
    number (ds ++ es) = number ds * 64 ^ es.length + number es := by
  have hfoldl (n : Nat) : es.foldl (fun n d => n * 64 + d) n = n * 64 ^ es.length + number es := by
    induction es generalizing n with
    | nil => simp [number]
    | cons e es ih =>
      have hcons : number (e :: es) = e * 64 ^ es.length + number es := by
        show es.foldl _ (0 * 64 + e) = _
        rw [ih, Nat.zero_mul, Nat.zero_add]
      rw [List.foldl_cons, ih, hcons, List.length_cons]
      ring
  unfold number
  rw [List.foldl_append, hfoldl]
  rfl

/-- Zeros are the number zero. -/
theorem number_replicate_zero (k : Nat) : number (List.replicate k 0) = 0 := by
  induction k with
  | zero => rfl
  | succ k ih => rw [List.replicate_succ, ← List.singleton_append, number_append, ih]; simp [number]

/-- Zero bytes at the end and as many zero digits are left out together: a digit has two bits less
than a byte. -/
theorem number_of_zeros {digits : List Nat} {bs : Bytes} {k : Nat}
    (h : number (digits ++ List.replicate k 0) = BigEndian.toNat (bs ++ List.replicate k 0)) :
    number digits = BigEndian.toNat bs * 4 ^ k := by
  rw [number_append, BigEndian.toNat_append, number_replicate_zero,
    BigEndian.toNat_replicate_zero, BigEndian.capacity_eq, List.length_replicate,
    List.length_replicate, Nat.add_zero, Nat.add_zero, show 256 = 4 * 64 from rfl, Nat.mul_pow,
    ← Nat.mul_assoc] at h
  exact Nat.eq_of_mul_eq_mul_right (Nat.pow_pos (by decide)) h

/-! ### Three bytes -/

variable {a b c : UInt8}

/-- The four digits of three bytes. -/
def sextets (a b c : UInt8) : List Nat :=
  let n := a.toNat * 65536 + b.toNat * 256 + c.toNat
  [n / 262144, n / 4096 % 64, n / 64 % 64, n % 64]

/-- Three bytes are written as their four digits. -/
theorem triple_eq (a b c : UInt8) : triple a b c = (sextets a b c).map digit := rfl

/-- Six bits are a digit. -/
theorem lt_of_mem_sextets (a b c : UInt8) : ∀ d ∈ sextets a b c, d < 64 := by
  have ha := a.toNat_lt
  have hb := b.toNat_lt
  have hc := c.toNat_lt
  simp only [sextets, List.forall_mem_cons, List.not_mem_nil, false_imp_iff, implies_true, and_true]
  omega

/-- Four digits of six bits each give back the number that they are cut from. -/
theorem number_digits (n : Nat) :
    number [n / 262144, n / 4096 % 64, n / 64 % 64, n % 64] = n := by
  have hhigh : n / 262144 * 64 + n / 4096 % 64 = n / 4096 := by
    rw [show n / 262144 = n / 4096 / 64 by rw [Nat.div_div_eq_div_mul]]
    exact Nat.div_add_mod' _ 64
  have hmiddle : n / 4096 * 64 + n / 64 % 64 = n / 64 := by
    rw [show n / 4096 = n / 64 / 64 by rw [Nat.div_div_eq_div_mul]]
    exact Nat.div_add_mod' _ 64
  simp only [number, List.foldl_cons, List.foldl_nil, Nat.zero_mul, Nat.zero_add]
  rw [hhigh, hmiddle, Nat.div_add_mod']

/-- The digits of three bytes are their number. -/
theorem number_sextets (a b c : UInt8) :
    number (sextets a b c) = BigEndian.toNat [a, b, c] := by
  rw [sextets, number_digits]
  simp only [BigEndian.toNat, List.foldl_cons, List.foldl_nil, Nat.zero_mul, Nat.zero_add,
    Nat.add_mul, Nat.mul_assoc]

/-- Three bytes are read back from their four digits. -/
theorem untriple?_digits (a b c : UInt8) {p q r s : Nat} (h : sextets a b c = [p, q, r, s]) :
    untriple? (digit p) (digit q) (digit r) (digit s) = some [a, b, c] := by
  have hlt := lt_of_mem_sextets a b c
  simp only [h, List.forall_mem_cons, List.not_mem_nil, false_imp_iff, implies_true,
    and_true] at hlt
  obtain ⟨hp, hq, hr, hs⟩ := hlt
  have hnumber : p * 262144 + q * 4096 + r * 64 + s
      = a.toNat * 65536 + b.toNat * 256 + c.toNat := by
    have hdigits := number_sextets a b c
    rw [h] at hdigits
    simp only [number, BigEndian.toNat, List.foldl_cons, List.foldl_nil] at hdigits
    omega
  have hbyte {n : Nat} {x : UInt8} (hn : n % 256 = x.toNat) : UInt8.ofNat n = x := by
    rw [← UInt8.toNat_inj, UInt8.toNat_ofNat', hn]
  have ha := a.toNat_lt
  have hb := b.toNat_lt
  have hc := c.toNat_lt
  have hfirst : UInt8.ofNat ((p * 262144 + q * 4096 + r * 64 + s) / 65536) = a := hbyte (by omega)
  have hsecond : UInt8.ofNat ((p * 262144 + q * 4096 + r * 64 + s) / 256) = b := hbyte (by omega)
  have hthird : UInt8.ofNat (p * 262144 + q * 4096 + r * 64 + s) = c := hbyte (by omega)
  simp only [untriple?, value?_digit p hp, value?_digit q hq, value?_digit r hr,
    value?_digit s hs, Option.bind_eq_bind, Option.bind_some, hfirst, hsecond, hthird]
  rfl

/-- A last byte leaves two digits without bits. -/
theorem sextets_one (a : UInt8) : ∃ p q, sextets a 0 0 = [p, q, 0, 0] := by
  have hthird : (a.toNat * 65536 + 0 * 256 + 0) / 64 % 64 = 0 := by omega
  have hfourth : (a.toNat * 65536 + 0 * 256 + 0) % 64 = 0 := by omega
  exact ⟨_, _, by rw [sextets, UInt8.toNat_zero, hthird, hfourth]⟩

/-- Two last bytes leave one digit without bits. -/
theorem sextets_two (a b : UInt8) : ∃ p q r, sextets a b 0 = [p, q, r, 0] := by
  have hfourth : (a.toNat * 65536 + b.toNat * 256 + 0) % 64 = 0 := by omega
  exact ⟨_, _, _, by rw [sextets, UInt8.toNat_zero, hfourth]⟩

/-! ### All bytes -/

/-- Bytes are taken three at a time, up to two last ones. -/
theorem triples_induction {motive : Bytes → Prop} (nil : motive []) (one : ∀ a, motive [a])
    (two : ∀ a b, motive [a, b])
    (more : ∀ a b c rest, motive rest → motive (a :: b :: c :: rest)) : ∀ bs, motive bs
  | [] => nil
  | [a] => one a
  | [a, b] => two a b
  | a :: b :: c :: rest => more a b c rest (triples_induction nil one two more rest)

/-- The characters in front stay in front. -/
theorem encodeFrom_append (front done : List Char) (bs : Bytes) :
    encodeFrom (done ++ front) bs = front.reverse ++ encodeFrom done bs := by
  fun_induction encodeFrom done bs with
  | case1 done a b c rest ih => rw [encodeFrom, ← List.append_assoc, ih]
  | case2 done bs hbs => rw [encodeFrom, List.reverse_append, List.append_assoc]; exact hbs

/-- Three bytes are encoded in front of the others. -/
theorem encodeFrom_triple (a b c : UInt8) (rest : Bytes) :
    encodeFrom [] (a :: b :: c :: rest) = triple a b c ++ encodeFrom [] rest := by
  have hfront := encodeFrom_append (triple a b c).reverse [] rest
  rw [List.nil_append, List.reverse_reverse] at hfront
  rw [encodeFrom, List.append_nil, hfront]

/-- One or two bytes are encoded as the last ones. -/
theorem encodeFrom_last {bs : Bytes} (h : bs.length < 3) : encodeFrom [] bs = last bs := by
  rw [encodeFrom, List.reverse_nil, List.nil_append]
  rintro a b c rest rfl
  simp only [List.length_cons] at h
  omega

/-- The characters of a last byte. -/
theorem encodeFrom_one {a : UInt8} {p q : Nat} (h : sextets a 0 0 = [p, q, 0, 0]) :
    encodeFrom [] [a] = [p, q].map digit ++ List.replicate 2 '=' := by
  rw [encodeFrom_last (by simp), last, triple_eq, h]
  rfl

/-- The characters of two last bytes. -/
theorem encodeFrom_two {a b : UInt8} {p q r : Nat} (h : sextets a b 0 = [p, q, r, 0]) :
    encodeFrom [] [a, b] = [p, q, r].map digit ++ List.replicate 1 '=' := by
  rw [encodeFrom_last (by simp), last, triple_eq, h]
  rfl

/-- A group that does not end in padding is read in front of the others. -/
theorem decodeGroups?_cons {p q r s : Char} {bs : Bytes} (rest : List Char) (hs : s ≠ '=')
    (h : untriple? p q r s = some bs) :
    decodeGroups? (p :: q :: r :: s :: rest) = (decodeGroups? rest).map (bs ++ ·) := by
  rw [decodeGroups?, h]
  · cases decodeGroups? rest <;> rfl
  · exact fun _ heq _ => hs heq
  · exact fun heq _ => hs heq

/-- The bytes are read back. -/
theorem decodeGroups?_encodeFrom (bs : Bytes) : decodeGroups? (encodeFrom [] bs) = some bs := by
  induction bs using triples_induction with
  | nil => rfl
  | one a =>
    obtain ⟨p, q, hdigits⟩ := sextets_one a
    rw [encodeFrom_one hdigits]
    show decodeGroups? [digit p, digit q, '=', '='] = _
    rw [decodeGroups?, show 'A' = digit 0 from rfl, untriple?_digits a 0 0 hdigits]
    rfl
  | two a b =>
    obtain ⟨p, q, r, hdigits⟩ := sextets_two a b
    have hr : digit r ≠ '=' := digit_ne_padding r (lt_of_mem_sextets a b 0 r (by simp [hdigits]))
    rw [encodeFrom_two hdigits]
    show decodeGroups? [digit p, digit q, digit r, '='] = _
    rw [decodeGroups?, show 'A' = digit 0 from rfl, untriple?_digits a b 0 hdigits]
    · rfl
    · exact hr
  | more a b c rest ih =>
    obtain ⟨p, q, r, s, hdigits⟩ : ∃ p q r s, sextets a b c = [p, q, r, s] := ⟨_, _, _, _, rfl⟩
    have hs : digit s ≠ '=' := digit_ne_padding s (lt_of_mem_sextets a b c s (by simp [hdigits]))
    rw [encodeFrom_triple, triple_eq, hdigits]
    show decodeGroups? (digit p :: digit q :: digit r :: digit s :: encodeFrom [] rest) = _
    rw [decodeGroups?_cons _ hs (untriple?_digits a b c hdigits), ih]
    rfl

/-- Bytes are read back from their base64 form. -/
theorem decode?_encode (bs : Bytes) : decode? (encode bs) = some bs := by
  rw [decode?, encode, String.toList_ofList, decodeGroups?_encodeFrom]

/-- Bytes are encoded as digits and padding, and the digits are the number that the bytes are, on
so many bits more. -/
theorem exists_digits (bs : Bytes) : ∃ digits padding, (∀ d ∈ digits, d < 64)
    ∧ encodeFrom [] bs = digits.map digit ++ List.replicate padding '='
    ∧ 3 * digits.length = 4 * bs.length + padding
    ∧ number digits = BigEndian.toNat bs * 4 ^ padding ∧ padding ≤ 2 := by
  induction bs using triples_induction with
  | nil => exact ⟨[], 0, by simp, rfl, rfl, rfl, by decide⟩
  | one a =>
    obtain ⟨p, q, hdigits⟩ := sextets_one a
    have hnumber := number_sextets a 0 0
    have hlt := lt_of_mem_sextets a 0 0
    rw [hdigits] at hnumber hlt
    exact ⟨[p, q], 2, fun d hd => hlt d (List.mem_append_left [0, 0] hd), encodeFrom_one hdigits,
      rfl, @number_of_zeros [p, q] [a] 2 hnumber, le_rfl⟩
  | two a b =>
    obtain ⟨p, q, r, hdigits⟩ := sextets_two a b
    have hnumber := number_sextets a b 0
    have hlt := lt_of_mem_sextets a b 0
    rw [hdigits] at hnumber hlt
    exact ⟨[p, q, r], 1, fun d hd => hlt d (List.mem_append_left [0] hd), encodeFrom_two hdigits,
      rfl, @number_of_zeros [p, q, r] [a, b] 1 hnumber, by decide⟩
  | more a b c rest ih =>
    obtain ⟨digits, padding, hlt, htext, hlength, hnumber, hpadding⟩ := ih
    refine ⟨sextets a b c ++ digits, padding, ?_, ?_, ?_, ?_, hpadding⟩
    · intro d hd
      rw [List.mem_append] at hd
      exact hd.elim (lt_of_mem_sextets a b c d) (hlt d)
    · rw [encodeFrom_triple, triple_eq, htext, List.map_append, List.append_assoc]
    · rw [List.length_append]
      simp only [List.length_cons, sextets, List.length_nil]
      omega
    · have hcapacity : 64 ^ digits.length = 256 ^ rest.length * 4 ^ padding := by
        rw [show 64 = 4 ^ 3 from rfl, show 256 = 4 ^ 4 from rfl, ← Nat.pow_mul, ← Nat.pow_mul,
          ← Nat.pow_add, hlength]
      rw [number_append, number_sextets, hnumber, hcapacity]
      show _ = BigEndian.toNat ([a, b, c] ++ rest) * _
      rw [BigEndian.toNat_append, BigEndian.capacity_eq]
      ring

/-- The form that bytes are given is the standard one. -/
theorem standard_encode (bs : Bytes) : Standard (encode bs) bs := by
  obtain ⟨digits, padding, hlt, htext, hlength, hnumber, hpadding⟩ := exists_digits bs
  have hdigits : (digits.map digit).map (alphabet.idxOf ·) = digits := by
    rw [List.map_map]
    exact (List.map_congr_left fun d hd => idxOf_digit (hlt d hd)).trans (List.map_id digits)
  refine ⟨digits.map digit, padding, by rw [encode, String.toList_ofList, htext], ?_⟩
  constructor
  · intro c hc
    obtain ⟨d, hd, rfl⟩ := List.mem_map.mp hc
    exact digit_mem_alphabet (hlt d hd)
  · rw [List.length_map]
    omega
  · rw [hdigits, hnumber]
  · exact hpadding
  · rw [List.length_map]
    omega

end TxnLog.Text.Base64
