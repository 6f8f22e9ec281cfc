import TxnLog.Proofs.Text.Utf8

/-!
# Well-formed UTF-8

Which byte strings are UTF-8 is said here without the decoder: they are made of sequences, each of
which has as many bytes as its first one tells, holds the number of a character and could not be
shorter. `exists_decode_iff` says that the decoder takes these and no others.
-/

namespace TxnLog.Text.Utf8

/-- The bytes hold the number `n`: the first one tells how many there are and holds the highest
bits, each of the others holds six more. -/
inductive Pattern : Nat → Bytes → Prop where
  | one {a : Nat} (ha : a < 0x80) : Pattern a [UInt8.ofNat a]
  | two {a b : Nat} (ha : a < 0x20) (hb : b < 0x40) :
    Pattern (a * 64 + b) [UInt8.ofNat (a + 0xc0), UInt8.ofNat (b + 0x80)]
  | three {a b c : Nat} (ha : a < 0x10) (hb : b < 0x40) (hc : c < 0x40) :
    Pattern ((a * 64 + b) * 64 + c)
      [UInt8.ofNat (a + 0xe0), UInt8.ofNat (b + 0x80), UInt8.ofNat (c + 0x80)]
  | four {a b c d : Nat} (ha : a < 0x08) (hb : b < 0x40) (hc : c < 0x40) (hd : d < 0x40) :
    Pattern (((a * 64 + b) * 64 + c) * 64 + d)
      [UInt8.ofNat (a + 0xf0), UInt8.ofNat (b + 0x80), UInt8.ofNat (c + 0x80),
        UInt8.ofNat (d + 0x80)]

/-- The bytes are the sequence of the number `n`. -/
structure Sequence (n : Nat) (bs : Bytes) : Prop where
  /-- They hold the number. -/
  pattern : Pattern n bs
  /-- They are no overlong form: no fewer bytes hold the number. -/
  shortest : ∀ bs', Pattern n bs' → bs.length ≤ bs'.length
  /-- The number is not one of a surrogate. -/
  not_surrogate : ¬ (0xd800 ≤ n ∧ n ≤ 0xdfff)
  /-- The number is that of a code point. -/
  le_last : n ≤ 0x10ffff

/-- The bytes are one sequence after another, none of them cut short. -/
inductive WellFormed : Bytes → Prop where
  | nil : WellFormed []
  | cons {n : Nat} {bs rest : Bytes} : Sequence n bs → WellFormed rest → WellFormed (bs ++ rest)

/-! ### Sequences and characters -/

variable {n : Nat} {bs : Bytes}

/-- Two bytes hold eleven bits. -/
theorem exists_pattern_two (h : n < 0x800) : ∃ bs, Pattern n bs ∧ bs.length = 2 := by
  have hpattern := @Pattern.two (n / 64) (n % 64) (by omega) (by omega)
  rw [Nat.div_add_mod'] at hpattern
  exact ⟨_, hpattern, rfl⟩

/-- Three bytes hold sixteen bits. -/
theorem exists_pattern_three (h : n < 0x10000) : ∃ bs, Pattern n bs ∧ bs.length = 3 := by
  have hpattern := @Pattern.three (n / 4096) (n / 64 % 64) (n % 64) (by omega) (by omega) (by omega)
  rw [show (n / 4096 * 64 + n / 64 % 64) * 64 + n % 64 = n by omega] at hpattern
  exact ⟨_, hpattern, rfl⟩

/-- Larger numbers need more bytes. -/
theorem Pattern.le_length (h : Pattern n bs) : 1 ≤ bs.length ∧ (0x80 ≤ n → 2 ≤ bs.length)
    ∧ (0x800 ≤ n → 3 ≤ bs.length) ∧ (0x10000 ≤ n → 4 ≤ bs.length) := by
  cases h <;> simp <;> omega

/-- The number of a sequence is a character's. -/
theorem Sequence.isValidChar (h : Sequence n bs) : n.isValidChar := by
  have hsurrogate := h.not_surrogate
  have hlast := h.le_last
  unfold Nat.isValidChar
  omega

/-- A sequence is what the character of its number is encoded as. -/
theorem Sequence.eq_encodeChar (h : Sequence n bs) :
    bs = String.utf8EncodeChar (Char.ofNat n) := by
  have hvalid := h.isValidChar
  have hshortest := h.shortest
  cases h.pattern with
  | one ha => exact (encodeChar_one ha).symm
  | @two a b ha hb =>
    have hlow : 0x7f < a * 64 + b := by
      by_contra hle
      have hone := hshortest _ (.one (by omega))
      simp at hone
    exact (encodeChar_two ha hb hlow).symm
  | @three a b c ha hb hc =>
    have hlow : 0x7ff < (a * 64 + b) * 64 + c := by
      by_contra hle
      obtain ⟨bs', hpattern, htwo⟩ := @exists_pattern_two ((a * 64 + b) * 64 + c) (by omega)
      have hle := hshortest _ hpattern
      simp [htwo] at hle
    exact (encodeChar_three ha hb hc hlow hvalid).symm
  | @four a b c d ha hb hc hd =>
    have hlow : 0xffff < ((a * 64 + b) * 64 + c) * 64 + d := by
      by_contra hle
      obtain ⟨bs', hpattern, hthree⟩ :=
        @exists_pattern_three (((a * 64 + b) * 64 + c) * 64 + d) (by omega)
      have hle := hshortest _ hpattern
      simp [hthree] at hle
    exact (encodeChar_four ha hb hc hd hlow hvalid).symm

/-- A character is encoded as the sequence of its number. -/
theorem sequence_encodeChar (c : Char) : Sequence c.toNat (String.utf8EncodeChar c) := by
  have hvalid : c.toNat.isValidChar := c.valid
  unfold Nat.isValidChar at hvalid
  suffices hpattern : Pattern c.toNat (String.utf8EncodeChar c)
      ∧ ∀ bs', Pattern c.toNat bs' → (String.utf8EncodeChar c).length ≤ bs'.length from
    ⟨hpattern.1, hpattern.2, by omega, by omega⟩
  unfold String.utf8EncodeChar
  rw [show c.val.toNat = c.toNat from rfl]
  -- The encoder writes the digits to base 64, in the fewest bytes that hold the number.
  generalize c.toNat = v at *
  dsimp only
  split
  · exact ⟨.one (by omega), fun _ h => h.le_length.1⟩
  split
  · have hpattern := @Pattern.two (v / 64 % 32) (v % 64) (by omega) (by omega)
    rw [show v / 64 % 32 * 64 + v % 64 = v by omega] at hpattern
    exact ⟨hpattern, fun _ h => h.le_length.2.1 (by omega)⟩
  split
  · have hpattern := @Pattern.three (v / 4096 % 16) (v / 64 % 64) (v % 64) (by omega) (by omega)
      (by omega)
    rw [show (v / 4096 % 16 * 64 + v / 64 % 64) * 64 + v % 64 = v by omega] at hpattern
    exact ⟨hpattern, fun _ h => h.le_length.2.2.1 (by omega)⟩
  · have hpattern := @Pattern.four (v / 262144 % 8) (v / 4096 % 64) (v / 64 % 64) (v % 64)
      (by omega) (by omega) (by omega) (by omega)
    rw [show ((v / 262144 % 8 * 64 + v / 4096 % 64) * 64 + v / 64 % 64) * 64 + v % 64 = v by omega]
      at hpattern
    exact ⟨hpattern, fun _ h => h.le_length.2.2.2 (by omega)⟩

/-! ### Texts -/

/-- Characters are encoded as well-formed bytes. -/
theorem wellFormed_flatMap (cs : List Char) : WellFormed (cs.flatMap String.utf8EncodeChar) := by
  induction cs with
  | nil => exact .nil
  | cons c cs ih =>
    rw [List.flatMap_cons]
    exact .cons (sequence_encodeChar c) ih

/-- Well-formed bytes are what some characters are encoded as. -/
theorem WellFormed.exists_eq (h : WellFormed bs) :
    ∃ cs : List Char, bs = cs.flatMap String.utf8EncodeChar := by
  induction h with
  | nil => exact ⟨[], rfl⟩
  | @cons n bs rest hsequence _ ih =>
    obtain ⟨cs, rfl⟩ := ih
    exact ⟨Char.ofNat n :: cs, by rw [List.flatMap_cons, hsequence.eq_encodeChar]⟩

/-- A text is encoded as well-formed bytes. -/
theorem wellFormed_encode (s : String) : WellFormed (encode s) := wellFormed_flatMap s.toList

/-- A text has at least one byte for each character. -/
theorem length_le_length_encode (s : String) : s.toList.length ≤ (encode s).length := by
  rw [encode, List.length_flatMap]
  induction s.toList with
  | nil => rfl
  | cons c cs ih =>
    have hsize := c.utf8Size_pos
    rw [List.length_cons, List.map_cons, List.sum_cons, String.length_utf8EncodeChar]
    omega

/-- The decoder takes the well-formed bytes and no others. -/
theorem exists_decode_iff (bs : Bytes) : (∃ s, decode bs = .ok s) ↔ WellFormed bs := by
  constructor
  · rintro ⟨s, hs⟩
    rw [← encode_of_decode hs]
    exact wellFormed_encode s
  · intro h
    obtain ⟨cs, rfl⟩ := h.exists_eq
    refine ⟨String.ofList cs, ?_⟩
    have hencode : encode (String.ofList cs) = cs.flatMap String.utf8EncodeChar := by
      rw [encode, String.toList_ofList]
    rw [← hencode, decode_encode]

end TxnLog.Text.Utf8
