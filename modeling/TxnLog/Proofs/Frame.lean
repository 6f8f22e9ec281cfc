import TxnLog.Frame
import TxnLog.Proofs.BigEndian
import TxnLog.Proofs.Cursor

/-!
# Reading frames

`read_eq` writes a read out as a case distinction on the bytes at the cursor, whatever the read
calls. From it, reading gives a frame exactly where a well-formed one is stored (`read_encode`,
`of_read`), and depends on no byte behind it. Where only the first bytes of a frame are written
and zeros follow, no frame is read and no length is refused (`read_torn`): zeros in the length
field make the length no larger, and the byte in the trailer's place is one of the zeros.
-/

namespace TxnLog.Frame

/-- The length of the payload that the bytes at a frame's start tell. -/
def lengthField (bs : Bytes) : Int := BigEndian.toInt ((bs.take prefixSize).drop 8)

/-- The frame is stored as a writer does it, and its payload is not longer than the limit. -/
structure WellFormed (most : Int) (f : Frame) : Prop where
  /-- The mark stands at the end. -/
  trailer : f.trailer = mark
  /-- The checksum fits its field. -/
  checksum : f.checksum < BigEndian.capacity 8
  /-- The payload is not empty. -/
  pos : 0 < f.payload.length
  /-- The length of the payload is in the limit. -/
  limit : (f.payload.length : Int) ≤ most
  /-- The length of the payload fits its field. -/
  fits : 2 * f.payload.length < BigEndian.capacity 4

/-- A read, by the bytes at the cursor. -/
theorem read_eq {limit : CallLimit} (hlimit : limit.Productive) (most : Int) (c : Cursor) :
    read limit most c =
      if c.rest.length < prefixSize then
        (.ok (.endOfFile c.position c.rest.length), c.advance c.rest.length)
      else if lengthField c.rest = 0 then
        (.ok (.emptyTail c.position), c.advance prefixSize)
      else if lengthField c.rest < 0 ∨ most < lengthField c.rest then
        (.error (.unreasonableLength (lengthField c.rest) c.position), c.advance prefixSize)
      else
        let size := prefixSize + (lengthField c.rest).toNat
        if c.rest.length < size then
          (.ok (.endOfFile c.position c.rest.length), c.advance c.rest.length)
        else match c.rest[size]? with
          | none => (.error (.missingTrailer (c.position + size)), c.advance size)
          | some byte =>
            if byte ≠ mark then
              (.error (.wrongTrailer byte (c.position + size)), c.advance (size + 1))
            else
              (.ok (.frame {
                offset := c.position
                checksum := BigEndian.toNat (c.rest.take 8)
                payload := (c.rest.drop prefixSize).take (lengthField c.rest).toNat
                trailer := byte }), c.advance (size + 1)) := by
  simp only [read, Cursor.read_eq hlimit, List.length_take]
  by_cases hshort : c.rest.length < prefixSize
  · rw [if_pos (by omega), if_pos hshort, Nat.min_eq_right (by omega)]
  · rw [if_neg (by omega), if_neg hshort, Nat.min_eq_left (by omega)]
    have hfield : BigEndian.toInt ((c.rest.take prefixSize).drop 8) = lengthField c.rest := rfl
    rw [hfield]
    generalize lengthField c.rest = length
    split
    · rfl
    split
    · rfl
    simp only [Cursor.advance_rest, List.length_drop, Cursor.advance_advance]
    by_cases hpayload : c.rest.length < prefixSize + length.toNat
    · rw [if_pos (by omega), if_pos hpayload, Nat.min_eq_right (by omega),
        Nat.add_sub_cancel' (by omega)]
    · rw [if_neg (by omega), if_neg hpayload, Nat.min_eq_left (by omega)]
      -- The trailer is the first byte behind the payload, if there is one.
      have hhead : c.rest[prefixSize + length.toNat]?
          = (c.rest.drop (prefixSize + length.toNat))[0]? := by
        rw [List.getElem?_drop, Nat.add_zero]
      have hlength : (c.rest.drop (prefixSize + length.toNat)).length
          = c.rest.length - (prefixSize + length.toNat) := List.length_drop
      rw [hhead, List.take_take, show min 8 prefixSize = 8 from rfl, Nat.add_assoc c.position,
        ← hlength]
      cases hdrop : c.rest.drop (prefixSize + length.toNat) with
      | nil => simp
      | cons byte tail => simp

/-- Unwritten space is found where the cursor stands. -/
theorem offset_of_emptyTail {limit : CallLimit} (hlimit : limit.Productive) {most : Int}
    {c next : Cursor} {offset : Nat} (h : read limit most c = (.ok (.emptyTail offset), next)) :
    offset = c.position := by
  rw [read_eq hlimit] at h
  dsimp only at h
  repeat' split at h
  all_goals simp_all

/-- The end of the file is found where the cursor stands, and all bytes ahead are pending. -/
theorem of_endOfFile {limit : CallLimit} (hlimit : limit.Productive) {most : Int}
    {c next : Cursor} {offset pending : Nat}
    (h : read limit most c = (.ok (.endOfFile offset pending), next)) :
    offset = c.position ∧ pending = c.rest.length := by
  rw [read_eq hlimit] at h
  dsimp only at h
  repeat' split at h
  all_goals simp_all

/-- A frame takes as many bytes as its size tells. -/
theorem length_encode (f : Frame) : f.encode.length = f.size := by
  unfold encode
  simp only [size, prefixSize, List.length_append, BigEndian.length_ofNat,
    List.length_singleton]

/-- A frame in the file, taken apart field by field. -/
theorem encode_append (f : Frame) (rest : Bytes) :
    f.encode ++ rest = BigEndian.ofNat 8 f.checksum
      ++ (BigEndian.ofNat 4 f.payload.length ++ (f.payload ++ f.trailer :: rest)) := by
  simp [encode]

/-- The length field of a frame tells the length of its payload. -/
theorem lengthField_encode {most : Int} {f : Frame} (hf : f.WellFormed most) (rest : Bytes) :
    lengthField (f.encode ++ rest) = f.payload.length := by
  have hfield : ((f.encode ++ rest).take prefixSize).drop 8
      = BigEndian.ofNat 4 f.payload.length := by
    rw [encode_append, prefixSize]
    simp [List.take_append]
  have hfits := hf.fits
  have hnat : BigEndian.toNat (BigEndian.ofNat 4 f.payload.length) = f.payload.length :=
    BigEndian.toNat_ofNat (by omega)
  unfold lengthField
  rw [hfield, BigEndian.toInt_of_lt (by rw [hnat]; simpa using hfits), hnat]

/-- Where a well-formed frame is stored, it is read, whatever comes behind it. -/
theorem read_encode {limit : CallLimit} (hlimit : limit.Productive) {most : Int} {c : Cursor}
    {f : Frame} {rest : Bytes} (hf : f.WellFormed most) (hposition : f.offset = c.position)
    (hrest : c.rest = f.encode ++ rest) :
    read limit most c = (.ok (.frame f), c.advance f.size) := by
  have hlength : c.rest.length = f.size + rest.length := by
    rw [hrest, List.length_append, length_encode]
  have hfield : lengthField c.rest = f.payload.length := by
    rw [hrest, lengthField_encode hf]
  have hpos := hf.pos
  have hmost := hf.limit
  rw [read_eq hlimit, hfield, Int.toNat_natCast]
  unfold size at hlength
  rw [if_neg (by omega), if_neg (by omega), if_neg (by omega), if_neg (by omega)]
  have hchecksum : BigEndian.toNat (c.rest.take 8) = f.checksum := by
    rw [hrest, encode_append, List.take_left' (BigEndian.length_ofNat 8 _)]
    exact BigEndian.toNat_ofNat hf.checksum
  have hbehind : c.rest.drop prefixSize = f.payload ++ f.trailer :: rest := by
    rw [hrest, encode_append, ← List.append_assoc]
    exact List.drop_left' (by simp [prefixSize])
  have htrailer : c.rest[prefixSize + f.payload.length]? = some mark := by
    rw [← List.getElem?_drop, hbehind, hf.trailer]
    simp
  rw [htrailer, hchecksum, hbehind, List.take_left, ← hposition, ← hf.trailer]
  simp [size]

/-- The frame whose fields stand in a byte string, if its payload has `n` bytes. -/
def ofFields (offset : Nat) (bs : Bytes) (n : Nat) : Frame where
  offset
  checksum := BigEndian.toNat (bs.take 8)
  payload := (bs.drop prefixSize).take n
  trailer := mark

section Fields

variable {bs : Bytes} {n : Nat} (hmark : bs[prefixSize + n]? = some mark)
include hmark

/-- The payload has as many bytes as it should. -/
theorem length_payload_ofFields (offset : Nat) : (ofFields offset bs n).payload.length = n := by
  have hlt := (List.getElem?_eq_some_iff.mp hmark).1
  unfold ofFields
  rw [List.length_take, List.length_drop]
  omega

/-- The checksum field has eight bytes. -/
theorem length_checksumField : (bs.take 8).length = 8 := by
  have hlt := (List.getElem?_eq_some_iff.mp hmark).1
  rw [List.length_take]
  unfold prefixSize at hlt
  omega

/-- The length field has four bytes. -/
theorem length_lengthField : ((bs.take prefixSize).drop 8).length = 4 := by
  have hlt := (List.getElem?_eq_some_iff.mp hmark).1
  rw [List.length_drop, List.length_take]
  unfold prefixSize at *
  omega

/-- A frame whose fields stand in a byte string is well-formed. -/
theorem wellFormed_ofFields {most : Int} (hfield : lengthField bs = n) (hpos : 0 < n)
    (hmost : (n : Int) ≤ most) (offset : Nat) : (ofFields offset bs n).WellFormed most := by
  have hlength := length_payload_ofFields hmark offset
  have hnonneg : 0 ≤ BigEndian.toInt ((bs.take prefixSize).drop 8) := by
    show 0 ≤ lengthField bs
    omega
  have hfits := BigEndian.two_mul_toNat_lt hnonneg
  have hnat := BigEndian.toInt_of_lt hfits
  rw [length_lengthField hmark] at hfits
  refine ⟨rfl, ?_, by omega, by omega, ?_⟩
  · have hlt := BigEndian.toNat_lt (bs.take 8)
    rw [length_checksumField hmark] at hlt
    exact hlt
  · unfold lengthField at hfield
    omega

/-- A byte string in which the fields of a frame stand starts with the frame. -/
theorem encode_ofFields (hfield : lengthField bs = n) (offset : Nat) :
    bs = (ofFields offset bs n).encode ++ bs.drop (prefixSize + n + 1) := by
  have hlt := (List.getElem?_eq_some_iff.mp hmark).1
  have hchecksum : BigEndian.ofNat 8 (BigEndian.toNat (bs.take 8)) = bs.take 8 :=
    BigEndian.ofNat_toNat (length_checksumField hmark)
  -- The length field is not negative, so it is what its number is written as.
  have hlength : BigEndian.ofNat 4 n = (bs.take prefixSize).drop 8 := by
    have hnonneg : 0 ≤ BigEndian.toInt ((bs.take prefixSize).drop 8) := by
      show 0 ≤ lengthField bs
      omega
    have hnat := BigEndian.toInt_of_lt (BigEndian.two_mul_toNat_lt hnonneg)
    rw [← lengthField, hfield, Int.natCast_inj] at hnat
    rw [hnat, BigEndian.ofNat_toNat (length_lengthField hmark)]
  have hhead : bs.take prefixSize = bs.take 8 ++ (bs.take prefixSize).drop 8 := by
    conv_lhs => rw [← List.take_append_drop 8 (bs.take prefixSize), List.take_take]
    rfl
  have htail : bs.drop prefixSize
      = (bs.drop prefixSize).take n ++ mark :: bs.drop (prefixSize + n + 1) := by
    conv_lhs => rw [← List.take_append_drop n (bs.drop prefixSize), List.drop_drop]
    rw [List.drop_eq_getElem_cons hlt, (List.getElem?_eq_some_iff.mp hmark).2]
  calc bs = bs.take prefixSize ++ bs.drop prefixSize := (List.take_append_drop ..).symm
    _ = (bs.take 8 ++ (bs.take prefixSize).drop 8)
          ++ ((bs.drop prefixSize).take n ++ mark :: bs.drop (prefixSize + n + 1)) := by
      rw [← hhead, ← htail]
    _ = (ofFields offset bs n).encode ++ bs.drop (prefixSize + n + 1) := by
      unfold encode
      rw [length_payload_ofFields hmark]
      simp [ofFields, hchecksum, hlength]

end Fields

/-- What is read as a frame is well-formed, starts at the cursor and is stored there. -/
theorem of_read {limit : CallLimit} (hlimit : limit.Productive) {most : Int} {c next : Cursor}
    {f : Frame} (h : read limit most c = (.ok (.frame f), next)) :
    f.WellFormed most ∧ f.offset = c.position ∧ c.rest = f.encode ++ next.rest
      ∧ next = c.advance f.size := by
  rw [read_eq hlimit] at h
  by_cases hshort : c.rest.length < prefixSize
  · simp [hshort] at h
  rw [if_neg hshort] at h
  by_cases hzero : lengthField c.rest = 0
  · simp [hzero] at h
  rw [if_neg hzero] at h
  by_cases hbounds : lengthField c.rest < 0 ∨ most < lengthField c.rest
  · simp [hbounds] at h
  rw [if_neg hbounds] at h
  obtain ⟨n, hn⟩ : ∃ n : Nat, lengthField c.rest = n := ⟨_, (Int.toNat_of_nonneg (by omega)).symm⟩
  simp only [hn, Int.toNat_natCast] at h
  by_cases hpayload : c.rest.length < prefixSize + n
  · simp [hpayload] at h
  rw [if_neg hpayload] at h
  cases hlast : c.rest[prefixSize + n]? with
  | none => simp [hlast] at h
  | some byte =>
    simp only [hlast] at h
    by_cases hmark : byte = mark
    · subst hmark
      simp only [ne_eq, not_true_eq_false, if_false, Prod.mk.injEq, Except.ok.injEq,
        Found.frame.injEq] at h
      obtain ⟨hf, rfl⟩ := h
      have hfields : ofFields c.position c.rest n = f := hf
      rw [← hfields]
      refine ⟨wellFormed_ofFields hlast hn (by omega) (by omega) _, rfl,
        encode_ofFields hlast hn _, ?_⟩
      unfold size
      rw [length_payload_ofFields hlast]
    · simp [hmark] at h

/-! ### Frames that are not completely written -/

/-- What is found is neither a frame nor a length that no frame can have. -/
def Unfinished : Except FrameError Found → Prop
  | .ok (.emptyTail _) | .ok (.endOfFile ..) => True
  | .error (.missingTrailer _) | .error (.wrongTrailer ..) => True
  | .ok (.frame _) | .error (.unreasonableLength ..) => False

/-- The first `n` bytes of the frame, continued by `k` zeros. -/
def torn (f : Frame) (n k : Nat) : Bytes := f.encode.take n ++ List.replicate k 0

/-- Zeros stand where the frame is not yet written. -/
theorem getElem?_torn {f : Frame} {n k i : Nat} {byte : UInt8} (hn : n ≤ f.size) (hi : n ≤ i)
    (h : (f.torn n k)[i]? = some byte) : byte = 0 := by
  have htaken : (f.encode.take n).length = n := by
    rw [List.length_take, length_encode]
    omega
  unfold torn at h
  rw [List.getElem?_append_right (by omega), List.getElem?_replicate] at h
  split at h
  · exact (Option.some.inj h).symm
  · contradiction

/-- The length field of a torn frame holds the first bytes of the frame's, and zeros. -/
theorem lengthField_torn (f : Frame) {n k : Nat} (h : prefixSize ≤ (f.torn n k).length) :
    ((f.torn n k).take prefixSize).drop 8
      = (BigEndian.ofNat 4 f.payload.length).take (n - 8) ++ List.replicate (4 - (n - 8)) 0 := by
  have hencode := encode_append f []
  rw [List.append_nil] at hencode
  have hchecksum : (BigEndian.ofNat 8 f.checksum).length = 8 := BigEndian.length_ofNat ..
  have hlength : (BigEndian.ofNat 4 f.payload.length).length = 4 := BigEndian.length_ofNat ..
  unfold torn at h ⊢
  rw [hencode] at h ⊢
  unfold prefixSize at h ⊢
  simp only [List.length_append, List.length_take, List.length_replicate] at h ⊢
  -- Byte by byte, on either side of the cut.
  apply List.ext_getElem?
  intro i
  simp only [List.getElem?_drop, List.getElem?_take, List.getElem?_append,
    List.getElem?_replicate, List.length_append, List.length_take, hchecksum, hlength]
  grind

/-- The length field of a torn frame tells no larger length than that of the frame, and this
length if it is completely written. -/
theorem lengthField_torn_le {most : Int} {f : Frame} (hf : f.WellFormed most) {n k : Nat}
    (h : prefixSize ≤ (f.torn n k).length) :
    0 ≤ lengthField (f.torn n k) ∧ lengthField (f.torn n k) ≤ f.payload.length
      ∧ (prefixSize ≤ n → lengthField (f.torn n k) = f.payload.length) := by
  have hfits := hf.fits
  have hnat : BigEndian.toNat (BigEndian.ofNat 4 f.payload.length) = f.payload.length :=
    BigEndian.toNat_ofNat (by omega)
  have hle := BigEndian.toNat_take_zeros_le (BigEndian.ofNat 4 f.payload.length) (n - 8)
  rw [hnat, BigEndian.length_ofNat, ← lengthField_torn f h] at hle
  have hfour : (((f.torn n k).take prefixSize).drop 8).length = 4 := by
    simp only [List.length_drop, List.length_take, prefixSize] at h ⊢
    omega
  have hfield : lengthField (f.torn n k)
      = BigEndian.toNat (((f.torn n k).take prefixSize).drop 8) :=
    BigEndian.toInt_of_lt (by rw [hfour]; omega)
  refine ⟨by omega, by omega, fun hwritten => ?_⟩
  unfold prefixSize at hwritten
  rw [hfield, lengthField_torn f h, List.take_of_length_le (by simp; omega),
    Nat.sub_eq_zero_of_le (by omega), List.replicate_zero, List.append_nil, hnat]

/-- Where only zeros are ahead, no frame is read, and no length is refused. -/
theorem read_zeros {limit : CallLimit} (hlimit : limit.Productive) (most : Int) {c : Cursor}
    {k : Nat} (hrest : c.rest = List.replicate k 0) : Unfinished (read limit most c).1 := by
  have hfield : lengthField (List.replicate k 0) = 0 := by
    unfold lengthField
    rw [List.take_replicate, List.drop_replicate, BigEndian.toInt_of_lt]
    · rw [BigEndian.toNat_replicate_zero]
      rfl
    · rw [BigEndian.toNat_replicate_zero]
      exact BigEndian.capacity_pos _
  rw [read_eq hlimit, hrest, hfield]
  split
  · trivial
  · trivial

/-- Where only the first bytes of a well-formed frame are written and zeros follow, no frame is
read, and no length is refused. -/
theorem read_torn {limit : CallLimit} (hlimit : limit.Productive) {most : Int} {c : Cursor}
    {f : Frame} (hf : f.WellFormed most) {n k : Nat} (hn : n < f.size)
    (hrest : c.rest = f.torn n k) : Unfinished (read limit most c).1 := by
  rw [read_eq hlimit, hrest]
  split
  · trivial
  next hshort =>
  obtain ⟨hnonneg, hle, heq⟩ := lengthField_torn_le hf (Nat.le_of_not_lt hshort)
  have hmost := hf.limit
  split
  · trivial
  rw [if_neg (by omega)]
  dsimp only
  split
  · trivial
  split
  · trivial
  next byte hbyte =>
  -- The byte in the trailer's place is not written yet.
  have hbehind : n ≤ prefixSize + (lengthField (f.torn n k)).toNat := by
    unfold size at hn
    omega
  have hzero := getElem?_torn (by omega) hbehind hbyte
  rw [if_pos (by rw [hzero]; decide)]
  trivial

end TxnLog.Frame
