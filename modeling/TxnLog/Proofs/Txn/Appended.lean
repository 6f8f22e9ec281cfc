import TxnLog.Proofs.Txn.Layout

/-!
# Bytes behind a payload

What is appended to a payload goes unread (`decode_append`): a body is read from bytes of its own,
and a body without a layout is kept together with what follows. The bodies of an older layout are
not like that, since they are told from the newer ones by what is left. Anything behind the end of
a session is taken for its paths, and any four bytes behind a node's creation for its last field,
even where they are the digest of a newer writer (`decode_older_append`).
-/

namespace TxnLog

open Archive

namespace TxnBody

/-- Only the layouts that look at what is left have open-ended bodies. -/
theorem OpenEnded.code {code : Int} {bs : Bytes} (h : OpenEnded code bs) :
    code = OpCode.closeSession.code ∨ code = OpCode.create.code
      ∨ code = OpCode.create2.code := by
  cases h with
  | closeSession hcode => exact .inl hcode
  | create hcode => exact .inr hcode

/-- A body that is kept as it is belongs to an operation without a layout. -/
theorem of_read_unknown {code type : Int} {raw : Bytes} {c next : Cursor}
    (hread : read code c = (.ok (.unknown type raw), next)) : read code = readUnknown code := by
  by_cases hnone : ∀ op ∈ OpCode.withLayout, code ≠ op.code
  · exact read_unknown hnone
  push Not at hnone
  obtain ⟨op, hlayout, rfl⟩ := hnone
  exact absurd rfl (ne_unknown hlayout hread type raw)

end TxnBody

namespace Txn

/-- What is behind a header is the body. -/
theorem drop_size_encode (h : TxnHeader) (bs : Bytes) :
    (h.encode ++ bs).drop TxnHeader.size = bs := by
  rw [← h.length_encode, List.drop_left]

/-! ### Bodies that end before what follows -/

/-- Bytes behind a body go unread, also by the members of a multi transaction at any depth, unless
the body is open-ended. A body that is kept as it is is kept with them. -/
theorem decode_append {p : Bytes} {h : TxnHeader} {b : TxnBody} (hdecode : decode p = .ok ⟨h, b⟩)
    (s : Bytes) :
    (∀ type raw, b = .unknown type raw →
      decode (p ++ s) = .ok ⟨h, .unknown h.type (raw ++ s)⟩)
    ∧ ((∀ type raw, b ≠ .unknown type raw) →
      ¬ TxnBody.OpenEnded h.type (p.drop TxnHeader.size) →
      decode (p ++ s) = .ok ⟨h, b⟩ ∧ consumed (p ++ s) = consumed p) := by
  obtain ⟨hfits, bs, next, rfl, hread⟩ := of_decode hdecode
  rw [drop_size_encode, List.append_assoc]
  constructor
  · rintro type raw rfl
    have heq := TxnBody.of_read_unknown hread
    have hlonger := TxnBody.readsLast_unknown h.type (bs ++ s) TxnHeader.size
    rw [← heq] at hlonger
    rw [heq] at hread
    cases hread
    exact (decode_of_read hfits hlonger).1
  · intro hknown hclosed
    obtain ⟨-, hb⟩ | ⟨used, rest, rfl, rfl, hreads⟩ := TxnBody.exists_reads hread hclosed
    · exact absurd hb (hknown _ _)
    have hlonger := hreads TxnHeader.size (rest ++ s)
    rw [← List.append_assoc] at hlonger
    obtain ⟨hdecode', hconsumed⟩ := decode_of_read hfits hlonger
    exact ⟨hdecode', hconsumed.trans (decode_of_read hfits hread).2.symm⟩

/-- A digest as newer writers append it, its version and its value. -/
def digest : Bytes := Field.int 2 ++ Field.long 0x1234567890abcdef

/-- A multi transaction in another, whose members look at what is left of their own buffers. -/
def lookingMulti : BodyForm :=
  .multi (some [.mk 14 (.multi (some [
    .mk 1 (.create (some "/") none none false none) false,
    .mk (-11) (.closeSession none) false,
    .mk 99 (.unknown 99 [7]) false])) false])

/-- A digest behind a multi transaction gets into none of its members, and one behind a body
without a layout is kept. -/
theorem decode_append_nested :
    decode (TxnHeader.encode ⟨0x100, 1, 2, 1700000000123, 14⟩ ++ lookingMulti.encode ++ digest)
        = .ok ⟨⟨0x100, 1, 2, 1700000000123, 14⟩, lookingMulti.body⟩
      ∧ decode (TxnHeader.encode ⟨0x100, 1, 2, 1700000000123, 99⟩ ++ [7] ++ digest)
        = .ok ⟨⟨0x100, 1, 2, 1700000000123, 99⟩, .unknown 99 ([7] ++ digest)⟩ := by
  constructor
  · have hheader : TxnHeader.Fits ⟨0x100, 1, 2, 1700000000123, 14⟩ := by
      constructor <;> decide
    have hbody : lookingMulti.Fits := by
      simp +decide [lookingMulti, BodyForm.Fits, SubForm.Fits, SubForm.AllFit,
        BodyForm.Matches, Field.FitsString, Field.FitsBuffer, Field.FitsVector]
    have hmatches : lookingMulti.Matches 14 := rfl
    have hread := lookingMulti.readsLast hmatches hbody TxnHeader.size
    have hdecode := (decode_of_read hheader hread).1
    refine ((decode_append hdecode digest).2 ?_ ?_).1
    · intro type raw
      simp [lookingMulti, BodyForm.body]
    · intro hopen
      exact absurd hopen.code (by decide)
  · have hheader : TxnHeader.Fits ⟨0x100, 1, 2, 1700000000123, 99⟩ := by
      constructor <;> decide
    have hread : TxnBody.read 99 ⟨TxnHeader.size, [7]⟩ = (.ok (.unknown 99 [7]), ⟨33, []⟩) := by
      rw [TxnBody.read_unknown (by decide)]
      rfl
    have hdecode := (decode_of_read hheader hread).1
    exact (decode_append hdecode digest).1 _ _ rfl

/-! ### Older layouts -/

section Older

variable {h : TxnHeader}

/-- What is behind the header of a session's end is nothing or a vector of paths. -/
theorem decode_closeSession_iff (hfits : h.Fits) (htype : h.type = OpCode.closeSession.code)
    (s : Bytes) (b : TxnBody) :
    decode (h.encode ++ s) = .ok ⟨h, b⟩ ↔
      (s = [] ∧ b = .closeSession []) ∨ ∃ paths rest, Field.FitsVector Field.FitsString paths
        ∧ s = Field.vector Field.string paths ++ rest ∧ b = .closeSession (paths.getD []) := by
  have heq := TxnBody.read_closeSession htype
  constructor
  · intro hdecode
    obtain ⟨-, bs, next, hbs, hread⟩ := of_decode hdecode
    obtain rfl := List.append_cancel_left hbs
    rw [heq] at hread
    obtain ⟨hs, hb, -⟩ | ⟨paths, rest, hpaths, hs, hb, -⟩ := TxnBody.of_readCloseSession hread
    · exact .inl ⟨hs, hb⟩
    · exact .inr ⟨paths, rest, hpaths, hs, hb⟩
  · rintro (⟨rfl, rfl⟩ | ⟨paths, rest, hpaths, rfl, rfl⟩)
    · have hread : TxnBody.readCloseSession ⟨TxnHeader.size, []⟩
          = (.ok (.closeSession []), ⟨TxnHeader.size, []⟩) := rfl
      rw [← heq] at hread
      exact (decode_of_read hfits hread).1
    · have hread := TxnBody.reads_closeSession hpaths TxnHeader.size rest
      rw [← heq] at hread
      exact (decode_of_read hfits hread).1

/-- Fewer than four bytes behind a creation go unread. -/
theorem decode_create_of_lt (hfits : h.Fits)
    (htype : h.type = OpCode.create.code ∨ h.type = OpCode.create2.code) {k : Creation}
    (hk : k.Fits) {s : Bytes} (hs : s.length < 4) :
    decode (h.encode ++ (k.encode ++ s)) = .ok ⟨h, k.body (-1)⟩ := by
  have hread := TxnBody.readCreate_of_lt hk hs TxnHeader.size
  rw [← TxnBody.read_create htype] at hread
  exact (decode_of_read hfits hread).1

/-- Four bytes behind a creation are its last field. -/
theorem decode_create_version (hfits : h.Fits)
    (htype : h.type = OpCode.create.code ∨ h.type = OpCode.create2.code) {k : Creation}
    (hk : k.Fits) {v : Int} (hv : BigEndian.Fits 4 v) (rest : Bytes) :
    decode (h.encode ++ (k.encode ++ (Field.int v ++ rest))) = .ok ⟨h, k.body v⟩ := by
  have hread := TxnBody.reads_create hk hv TxnHeader.size rest
  rw [← TxnBody.read_create htype, List.append_assoc] at hread
  exact (decode_of_read hfits hread).1

/-- The end of a session may be written as a header alone. -/
theorem decode_closeSession_bare (hfits : h.Fits) (htype : h.type = OpCode.closeSession.code) :
    decode h.encode = .ok ⟨h, .closeSession []⟩ := by
  have hnone := (decode_closeSession_iff hfits htype [] (.closeSession [])).mpr (.inl ⟨rfl, rfl⟩)
  rwa [List.append_nil] at hnone

/-- What follows the bare end of a session goes unnoticed only if it starts with a vector that has
no paths. -/
theorem decode_closeSession_eq_iff (hfits : h.Fits)
    (htype : h.type = OpCode.closeSession.code) (s : Bytes) :
    decode (h.encode ++ s) = decode h.encode ↔
      s = [] ∨ ∃ rest, s = Field.int 0 ++ rest ∨ s = Field.int (-1) ++ rest := by
  have hempty : Field.vector Field.string (some []) = Field.int 0 := List.append_nil _
  rw [decode_closeSession_bare hfits htype, decode_closeSession_iff hfits htype]
  constructor
  · rintro (⟨rfl, -⟩ | ⟨paths, rest, -, rfl, hpaths⟩)
    · exact .inl rfl
    rw [TxnBody.closeSession.injEq] at hpaths
    cases paths with
    | none => exact .inr ⟨rest, .inr rfl⟩
    | some paths =>
      obtain rfl : [] = paths := hpaths
      exact .inr ⟨rest, .inl (by rw [hempty])⟩
  · rintro (rfl | ⟨rest, rfl | rfl⟩)
    · exact .inl ⟨rfl, rfl⟩
    · exact .inr ⟨some [], rest, by simp [Field.FitsVector, Field.lengths], by rw [hempty], rfl⟩
    · exact .inr ⟨none, rest, by simp [Field.FitsVector], rfl, rfl⟩

/-- What follows a creation goes unnoticed only if it is too short for the last field or starts
with the number that stands for none. -/
theorem decode_create_eq_iff (hfits : h.Fits)
    (htype : h.type = OpCode.create.code ∨ h.type = OpCode.create2.code) {k : Creation}
    (hk : k.Fits) (s : Bytes) :
    decode (h.encode ++ (k.encode ++ s)) = .ok ⟨h, k.body (-1)⟩ ↔
      s.length < 4 ∨ ∃ rest, s = Field.int (-1) ++ rest := by
  constructor
  · intro hsame
    by_cases hshort : s.length < 4
    · exact .inl hshort
    obtain ⟨v, rest, hv, rfl⟩ := exists_int_append (Nat.le_of_not_lt hshort)
    rw [decode_create_version hfits htype hk hv] at hsame
    obtain rfl : v = -1 := by simpa [Creation.body] using hsame
    exact .inr ⟨rest, rfl⟩
  · rintro (hshort | ⟨rest, rfl⟩)
    · exact decode_create_of_lt hfits htype hk hshort
    · exact decode_create_version hfits htype hk (by decide) rest

/-- What is behind a body in an older layout is taken for the rest of the newer one. It goes
unnoticed only if it looks like a rest with nothing in it. -/
theorem decode_older_append (hfits : h.Fits) (s : Bytes) :
    (h.type = OpCode.closeSession.code →
      decode h.encode = .ok ⟨h, .closeSession []⟩
      ∧ (∀ b, decode (h.encode ++ s) = .ok ⟨h, b⟩ ↔
        (s = [] ∧ b = .closeSession []) ∨ ∃ paths rest, Field.FitsVector Field.FitsString paths
          ∧ s = Field.vector Field.string paths ++ rest ∧ b = .closeSession (paths.getD []))
      ∧ (decode (h.encode ++ s) = decode h.encode ↔
        s = [] ∨ ∃ rest, s = Field.int 0 ++ rest ∨ s = Field.int (-1) ++ rest))
    ∧ (h.type = OpCode.create.code ∨ h.type = OpCode.create2.code → ∀ k : Creation, k.Fits →
      decode (h.encode ++ k.encode) = .ok ⟨h, k.body (-1)⟩
      ∧ (∀ v rest, BigEndian.Fits 4 v → s = Field.int v ++ rest →
        decode (h.encode ++ k.encode ++ s) = .ok ⟨h, k.body v⟩)
      ∧ (decode (h.encode ++ k.encode ++ s) = decode (h.encode ++ k.encode) ↔
        s.length < 4 ∨ ∃ rest, s = Field.int (-1) ++ rest)) := by
  constructor
  · intro htype
    exact ⟨decode_closeSession_bare hfits htype, decode_closeSession_iff hfits htype s,
      decode_closeSession_eq_iff hfits htype s⟩
  · intro htype k hk
    have hbare : decode (h.encode ++ k.encode) = .ok ⟨h, k.body (-1)⟩ := by
      have hempty : ([] : Bytes).length < 4 := by decide
      have hnone := decode_create_of_lt hfits htype hk hempty
      rwa [List.append_nil] at hnone
    rw [hbare, List.append_assoc]
    refine ⟨rfl, ?_, decode_create_eq_iff hfits htype hk s⟩
    rintro v rest hv rfl
    exact decode_create_version hfits htype hk hv rest

end Older

/-- The end of a session, written without a body. -/
def closing : TxnHeader := ⟨0x100, 1, 2, 1700000000123, -11⟩

/-- The header of a node's creation. -/
def creating : TxnHeader := ⟨0x100, 1, 2, 1700000000123, 1⟩

/-- The creation of a node as older servers write it. -/
def bare : Creation := ⟨some "/a", none, none, 0⟩

/-- The headers and the creation fit their fields. -/
theorem fits_older : closing.Fits ∧ creating.Fits ∧ bare.Fits := by
  refine ⟨?_, ?_, ?_⟩
  · constructor <;> decide
  · constructor <;> decide
  · constructor <;> simp +decide [bare, Field.FitsString, Field.FitsBuffer, Field.FitsVector]

/-- A digest behind a vector without paths goes unread. One behind a creation gives it a last
field. -/
theorem decode_older_append_digest :
    closing.Fits ∧ creating.Fits ∧ bare.Fits
      ∧ decode (closing.encode ++ (Field.int 0 ++ digest)) = decode closing.encode
      ∧ decode (creating.encode ++ bare.encode ++ digest)
        = .ok ⟨creating, .create (some "/a") [] [] false 2⟩ := by
  obtain ⟨hclosing, hcreating, hbare⟩ := fits_older
  have hsession := (decode_older_append hclosing (Field.int 0 ++ digest)).1 rfl
  have hcreate := (decode_older_append hcreating digest).2 (.inl rfl) bare hbare
  exact ⟨hclosing, hcreating, hbare, hsession.2.2.mpr (.inr ⟨digest, .inl rfl⟩),
    hcreate.2.1 2 _ (by decide) rfl⟩

/-- A digest behind the bare end of a session is refused, since it starts with the number of its
paths, and a digest behind a creation gives the node another version of its parent. -/
theorem decode_digest_taken :
    decode closing.encode = .ok ⟨closing, .closeSession []⟩
      ∧ decode (closing.encode ++ digest) = .error (.endOfRecord "path" 305419896 40 4)
      ∧ decode (creating.encode ++ bare.encode)
        = .ok ⟨creating, .create (some "/a") [] [] false (-1)⟩
      ∧ decode (creating.encode ++ bare.encode ++ digest)
        = .ok ⟨creating, .create (some "/a") [] [] false 2⟩ := by
  obtain ⟨hclosing, hcreating, hbare⟩ := fits_older
  have herror : (vector "paths2Delete" (string "path") ⟨TxnHeader.size, digest⟩).1
      = .error (.endOfRecord "path" 305419896 40 4) := by decide
  cases hpaths : vector "paths2Delete" (string "path") ⟨TxnHeader.size, digest⟩ with
  | mk result stop =>
  rw [hpaths] at herror
  obtain rfl : result = .error (.endOfRecord "path" 305419896 40 4) := herror
  have hread : TxnBody.read closing.type ⟨TxnHeader.size, digest⟩
      = (.error (.endOfRecord "path" 305419896 40 4), stop) := by
    have hne : digest ≠ [] := by decide
    have heq : TxnBody.read closing.type = TxnBody.readCloseSession :=
      TxnBody.read_closeSession rfl
    rw [heq, TxnBody.readCloseSession_of_ne hne, Attempt.bind_apply, hpaths]
  have hempty : ([] : Bytes).length < 4 := by decide
  refine ⟨decode_closeSession_bare hclosing rfl, decode_of_error hclosing hread, ?_, ?_⟩
  · have hshort := decode_create_of_lt hcreating (.inl rfl) hbare hempty
    rwa [List.append_nil] at hshort
  · rw [List.append_assoc]
    have hversion : BigEndian.Fits 4 2 := by decide
    exact decode_create_version hcreating (.inl rfl) hbare hversion _

end Txn

end TxnLog
