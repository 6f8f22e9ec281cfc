import Mathlib.Tactic.IntervalCases
import TxnLog.Text.Utf8

/-!
# UTF-8 is read back

Every text is decoded from the bytes it is encoded as (`decode_encode`). A character takes one to
four bytes; its first byte tells how many bytes follow and starts the code point, and each of the
others adds six bits to it (`continuation_cons`). In each of the four lengths the second byte is in
the range that the first one leaves it, which is where surrogates and overlong forms would not be.
For the same reason bytes that are decoded are the ones that the text is encoded as
(`encode_of_decode`): in each length the bits that the bytes hold need that many bytes.
-/

namespace TxnLog.Text.Utf8

/-- The first byte of two. The two least values would start overlong forms. -/
theorem lead?_two {n : Nat} (hlow : 2 ≤ n) (h : n < 32) :
    lead? (UInt8.ofNat (n + 0xc0)) = some ⟨n, 1, 0x80, 0xbf⟩ := by
  interval_cases n <;> rfl

/-- The first byte of three. -/
theorem lead?_three {n : Nat} (h : n < 16) : lead? (UInt8.ofNat (n + 0xe0))
    = some ⟨n, 2, if n = 0 then 0xa0 else 0x80, if n = 13 then 0x9f else 0xbf⟩ := by
  interval_cases n <;> rfl

/-- The first byte of four. -/
theorem lead?_four {n : Nat} (h : n < 5) : lead? (UInt8.ofNat (n + 0xf0))
    = some ⟨n, 3, if n = 0 then 0x90 else 0x80, if n = 4 then 0x8f else 0xbf⟩ := by
  interval_cases n <;> rfl

/-- A byte in its range adds six bits. -/
theorem continuation_cons {bits : Nat} {low high : UInt8} {more n : Nat} {bs : Bytes}
    {r : Nat × Bytes} (hlow : low.toNat ≤ n + 0x80) (hhigh : n + 0x80 ≤ high.toNat)
    (h : continuation (bits * 64 + n) 0x80 0xbf more bs = .ok r) :
    continuation bits low high (more + 1) (UInt8.ofNat (n + 0x80) :: bs) = .ok r := by
  have hlt := high.toNat_lt
  have hnat : (UInt8.ofNat (n + 0x80)).toNat = n + 0x80 :=
    UInt8.toNat_ofNat_of_lt' (by show _ < 256; omega)
  have hrange : low ≤ UInt8.ofNat (n + 0x80) ∧ UInt8.ofNat (n + 0x80) ≤ high := by
    rw [UInt8.le_iff_toNat_le, UInt8.le_iff_toNat_le, hnat]
    exact ⟨hlow, hhigh⟩
  rw [continuation, if_pos hrange, hnat, Nat.add_sub_cancel, h]

/-- A byte that is not the first after the lead has six free bits. -/
theorem continuation_mod {bits n : Nat} {more : Nat} {bs : Bytes} {r : Nat × Bytes}
    (h : continuation (bits * 64 + n % 64) 0x80 0xbf more bs = .ok r) :
    continuation bits 0x80 0xbf (more + 1) (UInt8.ofNat (n % 64 + 0x80) :: bs) = .ok r :=
  continuation_cons (by simp) (by simp; omega) h

/-- A character is read from a first byte and the bytes that continue it. -/
theorem decodeChar_of_continuation {b : UInt8} {lead : Lead} {bs rest : Bytes} {n : Nat}
    (hlead : lead? b = some lead)
    (h : continuation lead.bits lead.low lead.high lead.more bs = .ok (n, rest)) :
    decodeChar b bs = .ok (Char.ofNat n, lead.more, rest) := by
  simp only [decodeChar, hlead, h]

/-- The first byte of a character is one, and the character is read back from it and the others. -/
theorem decodeChar_encode (c : Char) (rest : Bytes) :
    ∃ b more, String.utf8EncodeChar c = b :: more
      ∧ decodeChar b (more ++ rest) = .ok (c, more.length, rest) := by
  -- Below the surrogates or above them, and below the end of the last plane.
  have hvalid : c.toNat.isValidChar := c.valid
  have hc : Char.ofNat c.toNat = c := Char.ofNat_toNat c
  rw [Nat.isValidChar] at hvalid
  unfold String.utf8EncodeChar
  rw [show c.val.toNat = c.toNat from rfl]
  generalize c.toNat = v at *
  subst hc
  dsimp only
  split
  · -- one byte
    refine ⟨_, _, rfl, ?_⟩
    have hlead : lead? (UInt8.ofNat v) = some ⟨v, 0, 0x80, 0xbf⟩ := by
      rw [lead?, UInt8.toNat_ofNat_of_lt' (by show _ < 256; omega), if_pos (by omega)]
    exact decodeChar_of_continuation hlead rfl
  split
  · -- two bytes
    refine ⟨_, _, rfl, ?_⟩
    rw [Nat.mod_eq_of_lt (show v / 64 < 32 by omega)]
    have hv : v / 64 * 64 + v % 64 = v := by omega
    refine decodeChar_of_continuation (lead?_two (by omega) (by omega)) (continuation_mod ?_)
    simp only [hv]
    rfl
  split
  · -- three bytes
    refine ⟨_, _, rfl, ?_⟩
    rw [Nat.mod_eq_of_lt (show v / 4096 < 16 by omega)]
    have hv : (v / 4096 * 64 + v / 64 % 64) * 64 + v % 64 = v := by omega
    refine decodeChar_of_continuation (lead?_three (by omega))
      (continuation_cons ?_ ?_ (continuation_mod ?_))
    -- Not overlong, since two bytes were not enough, and not a surrogate.
    · dsimp only
      split
      · simp; omega
      · simp
    · dsimp only
      split <;> simp <;> omega
    · simp only [hv]
      rfl
  · -- four bytes
    refine ⟨_, _, rfl, ?_⟩
    rw [Nat.mod_eq_of_lt (show v / 262144 < 8 by omega)]
    have hv : ((v / 262144 * 64 + v / 4096 % 64) * 64 + v / 64 % 64) * 64 + v % 64 = v := by omega
    refine decodeChar_of_continuation (lead?_four (by omega))
      (continuation_cons ?_ ?_ (continuation_mod (continuation_mod ?_)))
    -- Not overlong, since three bytes were not enough, and in the last plane.
    · dsimp only
      split
      · simp; omega
      · simp
    · dsimp only
      split <;> simp <;> omega
    · simp only [hv]
      rfl

/-- The characters of a text are read back, behind those that were read before. -/
theorem decodeFrom_encode (cs done : List Char) (p : Nat) :
    decodeFrom done p (cs.flatMap String.utf8EncodeChar) = .ok (done.reverse ++ cs) := by
  induction cs generalizing done p with
  | nil => simp [decodeFrom]
  | cons c cs ih =>
    obtain ⟨b, more, hbytes, hchar⟩ := decodeChar_encode c (cs.flatMap String.utf8EncodeChar)
    rw [List.flatMap_cons, hbytes, List.cons_append, decodeFrom]
    split
    · next heq =>
      rw [hchar] at heq
      cases heq
      rw [ih]
      simp
    · next heq =>
      rw [hchar] at heq
      contradiction

/-- Every text is decoded from the bytes it is encoded as. -/
theorem decode_encode (s : String) : decode (encode s) = .ok s := by
  unfold decode encode
  rw [decodeFrom_encode]
  simp

/-! ### The bytes of a character -/

/-- A number that is a character's is the number of this character. -/
theorem toNat_ofNat {v : Nat} (h : v.isValidChar) : (Char.ofNat v).val.toNat = v := by
  unfold Char.ofNat
  rw [dif_pos h]
  show (UInt32.ofNatLT v _).toNat = v
  simp

/-- A character of one byte. -/
theorem encodeChar_one {n : Nat} (hn : n < 0x80) :
    String.utf8EncodeChar (Char.ofNat n) = [UInt8.ofNat n] := by
  have hvalid : n.isValidChar := .inl (by omega)
  unfold String.utf8EncodeChar
  rw [toNat_ofNat hvalid, if_pos (by omega)]

/-- A character of two bytes. -/
theorem encodeChar_two {a b : Nat} (ha : a < 0x20) (hb : b < 0x40) (hlow : 0x7f < a * 64 + b) :
    String.utf8EncodeChar (Char.ofNat (a * 64 + b))
      = [UInt8.ofNat (a + 0xc0), UInt8.ofNat (b + 0x80)] := by
  have hvalid : (a * 64 + b).isValidChar := .inl (by omega)
  unfold String.utf8EncodeChar
  rw [toNat_ofNat hvalid, if_neg (by omega), if_pos (by omega),
    show (a * 64 + b) / 64 % 32 = a by omega, show (a * 64 + b) % 64 = b by omega]

/-- A character of three bytes. -/
theorem encodeChar_three {a b c : Nat} (ha : a < 0x10) (hb : b < 0x40) (hc : c < 0x40)
    (hlow : 0x7ff < (a * 64 + b) * 64 + c) (hvalid : ((a * 64 + b) * 64 + c).isValidChar) :
    String.utf8EncodeChar (Char.ofNat ((a * 64 + b) * 64 + c))
      = [UInt8.ofNat (a + 0xe0), UInt8.ofNat (b + 0x80), UInt8.ofNat (c + 0x80)] := by
  unfold String.utf8EncodeChar
  rw [toNat_ofNat hvalid, if_neg (by omega), if_neg (by omega), if_pos (by omega),
    show ((a * 64 + b) * 64 + c) / 4096 % 16 = a by omega,
    show ((a * 64 + b) * 64 + c) / 64 % 64 = b by omega,
    show ((a * 64 + b) * 64 + c) % 64 = c by omega]

/-- A character of four bytes. -/
theorem encodeChar_four {a b c d : Nat} (ha : a < 0x08) (hb : b < 0x40) (hc : c < 0x40)
    (hd : d < 0x40) (hlow : 0xffff < ((a * 64 + b) * 64 + c) * 64 + d)
    (hvalid : (((a * 64 + b) * 64 + c) * 64 + d).isValidChar) :
    String.utf8EncodeChar (Char.ofNat (((a * 64 + b) * 64 + c) * 64 + d))
      = [UInt8.ofNat (a + 0xf0), UInt8.ofNat (b + 0x80), UInt8.ofNat (c + 0x80),
        UInt8.ofNat (d + 0x80)] := by
  unfold String.utf8EncodeChar
  rw [toNat_ofNat hvalid, if_neg (by omega), if_neg (by omega), if_neg (by omega),
    show (((a * 64 + b) * 64 + c) * 64 + d) / 262144 % 8 = a by omega,
    show (((a * 64 + b) * 64 + c) * 64 + d) / 4096 % 64 = b by omega,
    show (((a * 64 + b) * 64 + c) * 64 + d) / 64 % 64 = c by omega,
    show (((a * 64 + b) * 64 + c) * 64 + d) % 64 = d by omega]

/-! ### What is decoded is encoded as it was -/

/-- A continuation byte is what its six bits are written as, and they are in its range. -/
theorem of_continuation_cons {bits : Nat} {low high : UInt8} {more : Nat} {bs : Bytes}
    {r : Nat × Bytes} (hlow : 0x80 ≤ low) (hhigh : high ≤ 0xbf)
    (h : continuation bits low high (more + 1) bs = .ok r) :
    ∃ n rest, n < 64 ∧ low.toNat ≤ n + 0x80 ∧ n + 0x80 ≤ high.toNat
      ∧ bs = UInt8.ofNat (n + 0x80) :: rest
      ∧ continuation (bits * 64 + n) 0x80 0xbf more rest = .ok r := by
  cases bs with
  | nil => simp [continuation] at h
  | cons b rest =>
    rw [continuation] at h
    split at h
    · next hrange =>
      rw [UInt8.le_iff_toNat_le, UInt8.le_iff_toNat_le] at hrange
      rw [UInt8.le_iff_toNat_le] at hlow hhigh
      have hlow' : 128 ≤ low.toNat := hlow
      have hhigh' : high.toNat ≤ 191 := hhigh
      refine ⟨b.toNat - 0x80, rest, by omega, by omega, by omega, ?_, ?_⟩
      · rw [Nat.sub_add_cancel (by omega), UInt8.ofNat_toNat]
      · split at h
        · next heq => cases h; exact heq
        · contradiction
    · contradiction

/-- A first byte starts a sequence of one of four lengths, and is what its bits are written as. -/
theorem of_lead? {b : UInt8} {lead : Lead} (h : lead? b = some lead) :
    (b.toNat < 0x80 ∧ lead = ⟨b.toNat, 0, 0x80, 0xbf⟩)
    ∨ (∃ n, 2 ≤ n ∧ n < 32 ∧ b = UInt8.ofNat (n + 0xc0) ∧ lead = ⟨n, 1, 0x80, 0xbf⟩)
    ∨ (∃ n < 16, b = UInt8.ofNat (n + 0xe0)
      ∧ lead = ⟨n, 2, if n = 0 then 0xa0 else 0x80, if n = 13 then 0x9f else 0xbf⟩)
    ∨ ∃ n < 5, b = UInt8.ofNat (n + 0xf0)
      ∧ lead = ⟨n, 3, if n = 0 then 0x90 else 0x80, if n = 4 then 0x8f else 0xbf⟩ := by
  have hofNat : b = UInt8.ofNat b.toNat := UInt8.ofNat_toNat.symm
  simp only [lead?] at h
  generalize b.toNat = v at h hofNat ⊢
  split at h
  · exact .inl ⟨‹_›, (Option.some.inj h).symm⟩
  split at h
  · contradiction
  split at h
  · obtain ⟨n, rfl⟩ : ∃ n, v = n + 0xc0 := ⟨v - 0xc0, by omega⟩
    exact .inr (.inl ⟨n, by omega, by omega, hofNat, by simpa using (Option.some.inj h).symm⟩)
  split at h
  · obtain ⟨n, rfl⟩ : ∃ n, v = n + 0xe0 := ⟨v - 0xe0, by omega⟩
    exact .inr (.inr (.inl ⟨n, by omega, hofNat, by simpa using (Option.some.inj h).symm⟩))
  split at h
  · obtain ⟨n, rfl⟩ : ∃ n, v = n + 0xf0 := ⟨v - 0xf0, by omega⟩
    exact .inr (.inr (.inr ⟨n, by omega, hofNat, by simpa using (Option.some.inj h).symm⟩))
  · contradiction

/-- A character that is read is encoded as the bytes that it is read from. -/
theorem encode_of_decodeChar {b : UInt8} {bs rest : Bytes} {c : Char} {more : Nat}
    (h : decodeChar b bs = .ok (c, more, rest)) :
    b :: bs = String.utf8EncodeChar c ++ rest := by
  simp only [decodeChar] at h
  split at h
  · contradiction
  next lead hlead =>
  split at h
  · next n rest' hmore =>
    cases h
    rcases of_lead? hlead with ⟨hb, rfl⟩ | ⟨a, hlow, ha, rfl, rfl⟩ | ⟨a, ha, rfl, rfl⟩
      | ⟨a, ha, rfl, rfl⟩
    all_goals dsimp only at hmore
    · -- one byte
      cases hmore
      rw [encodeChar_one hb, UInt8.ofNat_toNat]
      rfl
    · -- two bytes
      obtain ⟨x, bs, hx, -, -, rfl, hlast⟩ := of_continuation_cons (by simp) (by simp) hmore
      cases hlast
      rw [encodeChar_two ha hx (by omega)]
      rfl
    · -- three bytes
      obtain ⟨x, bs, hx, hxlow, hxhigh, rfl, hnext⟩ :=
        of_continuation_cons (by split <;> simp) (by split <;> simp) hmore
      obtain ⟨y, bs, hy, -, -, rfl, hlast⟩ := of_continuation_cons (by simp) (by simp) hnext
      cases hlast
      -- Not overlong, and not a surrogate.
      have hlow : 0x7ff < (a * 64 + x) * 64 + y := by
        split at hxlow <;> simp at hxlow <;> omega
      have hvalid : ((a * 64 + x) * 64 + y).isValidChar := by
        unfold Nat.isValidChar
        split at hxhigh <;> simp at hxhigh <;> omega
      rw [encodeChar_three ha hx hy hlow hvalid]
      rfl
    · -- four bytes
      obtain ⟨x, bs, hx, hxlow, hxhigh, rfl, hnext⟩ :=
        of_continuation_cons (by split <;> simp) (by split <;> simp) hmore
      obtain ⟨y, bs, hy, -, -, rfl, hthird⟩ := of_continuation_cons (by simp) (by simp) hnext
      obtain ⟨z, bs, hz, -, -, rfl, hlast⟩ := of_continuation_cons (by simp) (by simp) hthird
      cases hlast
      -- Not overlong, and in the last plane.
      have hlow : 0xffff < ((a * 64 + x) * 64 + y) * 64 + z := by
        split at hxlow <;> simp at hxlow <;> omega
      have hvalid : (((a * 64 + x) * 64 + y) * 64 + z).isValidChar := by
        unfold Nat.isValidChar
        split at hxhigh <;> simp at hxhigh <;> omega
      rw [encodeChar_four (by omega) hx hy hz hlow hvalid]
      rfl
  · contradiction

/-- Characters that are read are encoded as the bytes that they are read from. -/
theorem encode_of_decodeFrom {bs : Bytes} {done cs : List Char} {p : Nat}
    (h : decodeFrom done p bs = .ok cs) :
    ∃ new, cs = done.reverse ++ new ∧ bs = new.flatMap String.utf8EncodeChar := by
  fun_induction decodeFrom done p bs with
  | case1 done p =>
    cases h
    exact ⟨[], by simp, rfl⟩
  | case2 done p b bs c more rest hchar ih =>
    obtain ⟨new, rfl, hrest⟩ := ih h
    refine ⟨c :: new, by simp, ?_⟩
    rw [encode_of_decodeChar hchar, List.flatMap_cons, hrest]
  | case3 => contradiction

/-- A text is encoded as the bytes that it is decoded from. -/
theorem encode_of_decode {bs : Bytes} {s : String} (h : decode bs = .ok s) : encode s = bs := by
  unfold decode at h
  split at h
  · next cs hchars =>
    cases h
    obtain ⟨new, rfl, rfl⟩ := encode_of_decodeFrom hchars
    simp [encode]
  · contradiction

end TxnLog.Text.Utf8
