import TxnLog.Proofs.Frame

/-!
# Frames with one changed byte

A stored frame in which one byte of the checksum, of the payload or in the trailer's place is
another one is the stored form of another frame (`encode_set_checksum`, `encode_set_payload`,
`encode_set_trailer`). The first two are still well-formed, so they are read as frames, and the
last one is refused for its trailer (`read_wrongTrailer`).
-/

namespace TxnLog.Frame

variable {most : Int} {f : Frame}

/-- Before the payload stand the checksum and the length. -/
theorem length_prefix (f : Frame) :
    (BigEndian.ofNat 8 f.checksum ++ BigEndian.ofNat 4 f.payload.length).length = prefixSize := by
  simp [prefixSize]

/-- A changed byte of the checksum field changes the stored checksum. -/
theorem encode_set_checksum (f : Frame) {i : Nat} (hi : i < 8) (b : UInt8) :
    f.encode.set i b
      = { f with
          checksum := BigEndian.toNat ((BigEndian.ofNat 8 f.checksum).set i b) }.encode := by
  have hfield : ((BigEndian.ofNat 8 f.checksum).set i b).length = 8 := by simp
  unfold encode
  rw [BigEndian.ofNat_toNat hfield]
  simp [hi]

/-- A changed byte of the payload changes the payload. -/
theorem encode_set_payload (f : Frame) {i : Nat} (hi : i < f.payload.length) (b : UInt8) :
    f.encode.set (prefixSize + i) b = { f with payload := f.payload.set i b }.encode := by
  have hhead := length_prefix f
  unfold encode
  rw [List.set_append_left _ _ (by rw [List.length_append]; omega),
    List.set_append_right _ _ (by omega), hhead, Nat.add_sub_cancel_left, List.length_set]

/-- A changed byte in the trailer's place is the trailer. -/
theorem encode_set_trailer (f : Frame) (b : UInt8) :
    f.encode.set (prefixSize + f.payload.length) b = { f with trailer := b }.encode := by
  have hhead := length_prefix f
  unfold encode
  rw [← hhead, ← List.length_append, List.set_append_right _ _ (Nat.le_refl _), Nat.sub_self]
  rfl

/-- A frame is well-formed with every other checksum that fits its field. -/
theorem WellFormed.with_checksum (hf : f.WellFormed most) {checksum : Nat}
    (hchecksum : checksum < BigEndian.capacity 8) : { f with checksum }.WellFormed most :=
  ⟨hf.trailer, hchecksum, hf.pos, hf.limit, hf.fits⟩

/-- A frame is well-formed with every other payload of the same length. -/
theorem WellFormed.with_payload (hf : f.WellFormed most) {payload : Bytes}
    (hlength : payload.length = f.payload.length) : { f with payload }.WellFormed most :=
  ⟨hf.trailer, hf.checksum, hlength ▸ hf.pos, hlength ▸ hf.limit, hlength ▸ hf.fits⟩

/-- Where a frame that would be well-formed is stored with another trailer, it is refused. -/
theorem read_wrongTrailer {limit : CallLimit} (hlimit : limit.Productive)
    (hf : f.WellFormed most) {b : UInt8} (hb : b ≠ mark) {c : Cursor} {rest : Bytes}
    (hrest : c.rest = { f with trailer := b }.encode ++ rest) :
    (read limit most c).1
      = .error (.wrongTrailer b (c.position + (prefixSize + f.payload.length))) := by
  have hlength : c.rest.length = prefixSize + f.payload.length + 1 + rest.length := by
    rw [hrest, List.length_append, length_encode, size]
  -- Up to the trailer the bytes are those of the well-formed frame.
  have hfield : lengthField c.rest = f.payload.length := by
    rw [← lengthField_encode hf rest, hrest, encode_append, encode_append]
    simp [lengthField, prefixSize, List.take_append]
  have htrailer : c.rest[prefixSize + f.payload.length]? = some b := by
    rw [hrest, encode, ← length_prefix f, ← List.length_append, List.append_assoc,
      List.getElem?_append_right (Nat.le_refl _), Nat.sub_self]
    rfl
  have hpos := hf.pos
  have hmost := hf.limit
  rw [read_eq hlimit, hfield, Int.toNat_natCast]
  rw [if_neg (by omega), if_neg (by omega), if_neg (by omega), if_neg (by omega), htrailer]
  simp only [if_pos hb]

end TxnLog.Frame
