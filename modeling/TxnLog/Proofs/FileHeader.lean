import TxnLog.FileHeader
import TxnLog.Proofs.BigEndian
import TxnLog.Proofs.Cursor

/-!
# The file header is its first sixteen bytes

Decoding looks at the first sixteen bytes only (`decode_eq_of_take_eq`), and gives back every
header that can be written (`decode_encode`).
-/

namespace TxnLog.FileHeader

/-- What comes behind the header does not matter. -/
theorem decode_take (bs : Bytes) : decode (bs.take size) = decode bs := by
  by_cases h : bs.length < size
  · rw [List.take_of_length_le (by omega)]
  · have hlength : (bs.take size).length = size := by
      rw [List.length_take]
      omega
    unfold decode
    simp only [hlength, if_neg h, if_neg (Nat.lt_irrefl size), List.take_take,
      List.drop_take]
    rfl

/-- Contents with the same first sixteen bytes have the same header. -/
theorem decode_eq_of_take_eq {bs bs' : Bytes} (h : bs.take size = bs'.take size) :
    decode bs = decode bs' := by
  rw [← decode_take, h, decode_take]

/-- Only a content of sixteen bytes or more has a header. -/
theorem size_le_of_decode {bs : Bytes} {h : FileHeader} (hdecode : decode bs = .ok h) :
    size ≤ bs.length := by
  by_contra hlt
  unfold decode at hdecode
  rw [if_pos (by omega)] at hdecode
  contradiction

/-- The bytes start with a header: there are enough of them, and the magic number is right. -/
def Accepted (bs : Bytes) : Prop := size ≤ bs.length ∧ BigEndian.toInt (bs.take 4) = magicNumber

/-- There is a header where the bytes start with one. -/
theorem exists_decode_iff (bs : Bytes) : (∃ h, decode bs = .ok h) ↔ Accepted bs := by
  unfold decode Accepted
  by_cases hlt : bs.length < size
  · rw [if_pos hlt]
    simp [Nat.not_le.mpr hlt]
  · rw [if_neg hlt]
    by_cases hmagic : BigEndian.toInt (bs.take 4) = magicNumber
    · simp [hmagic, Nat.not_lt.mp hlt]
    · simp [hmagic]

/-- The header at the start of a file is read by one call, which moves behind it. -/
theorem read_ofBytes (bs : Bytes) :
    read .unlimited (Cursor.ofBytes bs)
      = (decode bs, Cursor.seek bs (bs.take size).length) := by
  rw [← decode_take]
  simp [read, Cursor.call, CallLimit.unlimited, Cursor.ofBytes, Cursor.advance, Cursor.seek]

/-- A header is written as sixteen bytes. -/
theorem length_encode {h : FileHeader} {bs : Bytes} (hencode : h.encode? = some bs) :
    bs.length = size := by
  simp only [encode?] at hencode
  split at hencode
  · rw [← Option.some.inj hencode]
    simp [size]
  · contradiction

/-- A header with the right magic number is read back, whatever comes behind it. -/
theorem decode_encode {h : FileHeader} {bs : Bytes} (hmagic : h.magic = magicNumber)
    (hencode : h.encode? = some bs) (rest : Bytes) : decode (bs ++ rest) = .ok h := by
  have hlength := length_encode hencode
  simp only [encode?] at hencode
  split at hencode
  · next hfits =>
    obtain ⟨hfour, hversion, hdbid⟩ := hfits
    have hbs := Option.some.inj hencode
    have hmagicField : (bs ++ rest).take 4 = BigEndian.ofInt 4 h.magic := by
      rw [← hbs]; simp
    have hversionField : ((bs ++ rest).drop 4).take 4 = BigEndian.ofInt 4 h.version := by
      rw [← hbs]; simp
    have hdbidField : ((bs ++ rest).drop 8).take 8 = BigEndian.ofInt 8 h.dbid := by
      rw [← hbs, List.append_assoc, List.drop_left' (by simp)]
      exact List.take_left' (BigEndian.length_ofInt ..)
    unfold decode
    rw [if_neg (by simp [hlength]), hmagicField, hversionField, hdbidField]
    simp only [BigEndian.toInt_ofInt hfour, BigEndian.toInt_ofInt hversion,
      BigEndian.toInt_ofInt hdbid]
    rw [if_neg (by simp [hmagic])]
  · contradiction

end TxnLog.FileHeader
