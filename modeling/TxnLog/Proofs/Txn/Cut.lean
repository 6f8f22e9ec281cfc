import TxnLog.Proofs.Txn.Appended

/-!
# Payloads that are cut

A payload that is cut within what is read of it is refused (`decode_cut`). What is left can be
decoded only in the layouts that look at what is left, and only where the cut takes away all of the
last part: the end of a session without its paths, or the creation of a node without its last
field. A cut gives no shorter path, data or list, since each of those stands behind its length.
-/

namespace TxnLog

open Archive

namespace TxnBody

/-- A body that is cut is refused, but for what a cut may leave of a session's end or of a node's
creation. -/
theorem take_cases {code : Int} {position : Nat} {bs : Bytes} {b : TxnBody} {next : Cursor}
    (hread : read code ⟨position, bs⟩ = (.ok b, next))
    (hknown : ∀ type raw, b ≠ .unknown type raw) {j : Nat} (hj : position + j < next.position) :
    (∃ e stop, read code ⟨position, bs.take j⟩ = (.error e, stop))
      ∨ (code = OpCode.closeSession.code ∧ j = 0 ∧ ∃ paths, b = .closeSession paths)
      ∨ (code = OpCode.create.code ∨ code = OpCode.create2.code)
        ∧ ∃ (k : Creation) (v : Int) (rest : Bytes), k.Fits ∧ BigEndian.Fits 4 v
          ∧ bs = k.encode ++ Field.int v ++ rest ∧ b = k.body v ∧ k.encode.length ≤ j := by
  rcases read_code_cases code with ⟨-, heq⟩ | ⟨hcode, heq⟩ | ⟨hcode, heq⟩ | ⟨-, hdelimited⟩
  · rw [heq] at hread
    cases hread
    exact absurd rfl (hknown _ _)
  · rw [heq] at hread ⊢
    obtain ⟨-, -, rfl⟩ | ⟨paths, rest, hfits, rfl, rfl, rfl⟩ := of_readCloseSession hread
    · exact absurd hj (by simp)
    have hlength : j < (Field.vector Field.string paths).length := Nat.lt_of_add_lt_add_left hj
    by_cases hzero : j = 0
    · exact .inr (.inl ⟨hcode, hzero, _, rfl⟩)
    rw [List.take_append_of_le_length hlength.le]
    exact .inl (error_of_take_closeSession hfits (Nat.pos_of_ne_zero hzero) hlength position)
  · rw [heq] at hread ⊢
    obtain ⟨k, hfits, hbehind⟩ := of_readCreate hread
    by_cases hlength : j < k.encode.length
    · -- The cut is within the creation, whatever stands behind it.
      obtain ⟨behind, rfl⟩ : ∃ behind, bs = k.encode ++ behind := by
        rcases hbehind with ⟨behind, -, rfl, -⟩ | ⟨v, rest, -, rfl, -⟩
        · exact ⟨behind, rfl⟩
        · exact ⟨_, List.append_assoc ..⟩
      rw [List.take_append_of_le_length hlength.le]
      exact .inl (error_of_take_create hfits hlength position)
    obtain ⟨_, -, -, -, rfl⟩ | ⟨v, rest, hv, rfl, rfl, -⟩ := hbehind
    · exact absurd (Nat.lt_of_add_lt_add_left hj) hlength
    · exact .inr (.inr ⟨hcode, k, v, rest, hfits, hv, rfl, rfl, Nat.le_of_not_lt hlength⟩)
  · obtain ⟨used, rest, rfl, rfl, hreads⟩ := hdelimited _ _ _ _ hread
    have hlength : j < used.length := Nat.lt_of_add_lt_add_left hj
    rw [List.take_append_of_le_length hlength.le]
    exact .inl (hdelimited.error_of_take hreads hlength position)

end TxnBody

namespace Txn

/-- What there is in the first `m` bytes of a payload, where it is not refused. -/
inductive Shortened (h : TxnHeader) (p : Bytes) : Nat → TxnBody → TxnBody → Prop
  /-- The end of a session is cut behind the header. -/
  | closeSession (hcode : h.type = OpCode.closeSession.code) (paths : List (Option String)) :
    Shortened h p TxnHeader.size (.closeSession paths) (.closeSession [])
  /-- The creation of a node is cut within the last four bytes that are read of it. -/
  | create {k : Creation} {v : Int} {rest : Bytes} {m : Nat}
      (hcode : h.type = OpCode.create.code ∨ h.type = OpCode.create2.code) (hfits : k.Fits)
      (hv : BigEndian.Fits 4 v) (hp : p = h.encode ++ (k.encode ++ Field.int v ++ rest))
      (hm : consumed p ≤ m + 4) : Shortened h p m (k.body v) (k.body (-1))

/-- The first bytes of a payload are those of the header and the first ones of the body. -/
theorem take_size_add (h : TxnHeader) (bs : Bytes) (j : Nat) :
    (h.encode ++ bs).take (TxnHeader.size + j) = h.encode ++ bs.take j := by
  rw [← h.length_encode, List.take_length_add_append]

/-- A creation with its last field is read up to the end of that. -/
theorem consumed_create {h : TxnHeader} (hfits : h.Fits)
    (hcode : h.type = OpCode.create.code ∨ h.type = OpCode.create2.code) {k : Creation}
    (hk : k.Fits) {v : Int} (hv : BigEndian.Fits 4 v) (rest : Bytes) :
    consumed (h.encode ++ (k.encode ++ Field.int v ++ rest))
      = TxnHeader.size + (k.encode.length + 4) := by
  have hread := TxnBody.reads_create hk hv TxnHeader.size rest
  rw [← TxnBody.read_create hcode, List.length_append] at hread
  exact (decode_of_read hfits hread).2

/-- What is left of a payload is decoded. -/
theorem Shortened.decoded {h : TxnHeader} {p : Bytes} {m : Nat} {b b' : TxnBody}
    (hshort : Shortened h p m b b') (hdecode : decode p = .ok ⟨h, b⟩) (hm : m < consumed p) :
    decode (p.take m) = .ok ⟨h, b'⟩ := by
  obtain ⟨hfits, bs, -, hp, -⟩ := of_decode hdecode
  cases hshort with
  | closeSession hcode paths =>
    have htake : p.take TxnHeader.size = h.encode := by
      have hzero := take_size_add h bs 0
      rwa [← hp, Nat.add_zero, List.take_zero, List.append_nil] at hzero
    rw [htake]
    exact decode_closeSession_bare hfits hcode
  | @create k v rest _ hcode hk hv hp hread =>
    subst hp
    rw [consumed_create hfits hcode hk hv] at hm hread
    obtain ⟨j, rfl⟩ : ∃ j, m = TxnHeader.size + (k.encode.length + j) :=
      ⟨m - TxnHeader.size - k.encode.length, by omega⟩
    have hleft : ((Field.int v ++ rest).take j).length < 4 := by
      rw [List.length_take]
      omega
    rw [take_size_add, List.append_assoc, List.take_length_add_append]
    exact decode_create_of_lt hfits hcode hk hleft

/-- A payload is refused if it is cut and nothing is left that could be decoded. -/
theorem error_or_shortened {p : Bytes} {h : TxnHeader} {b : TxnBody}
    (hdecode : decode p = .ok ⟨h, b⟩) (hknown : ∀ type raw, b ≠ .unknown type raw) {m : Nat}
    (hm : m < consumed p) :
    (∃ e, decode (p.take m) = .error e) ∨ ∃ b', Shortened h p m b b' := by
  obtain ⟨hfits, bs, next, rfl, hread⟩ := of_decode hdecode
  by_cases hheader : m < TxnHeader.size
  · exact .inl (error_of_take_header hfits bs hheader)
  obtain ⟨j, rfl⟩ := Nat.exists_eq_add_of_le (Nat.le_of_not_lt hheader)
  rw [(decode_of_read hfits hread).2] at hm
  rw [take_size_add]
  obtain ⟨e, stop, herror⟩ | ⟨hcode, rfl, paths, rfl⟩ | ⟨hcode, k, v, rest, hk, hv, rfl, rfl, hj⟩ :=
    TxnBody.take_cases hread hknown hm
  · exact .inl ⟨e, decode_of_error hfits herror⟩
  · exact .inr ⟨_, .closeSession hcode paths⟩
  · have hread : consumed (h.encode ++ (k.encode ++ Field.int v ++ rest))
        ≤ TxnHeader.size + j + 4 := by
      rw [consumed_create hfits hcode hk hv]
      omega
    exact .inr ⟨_, .create hcode hk hv rfl hread⟩

/-- A payload that is cut within what is read of it is refused, with two exceptions: the end of a
session may lose all of its paths, and the creation of a node its last field. -/
theorem decode_cut {p : Bytes} {h : TxnHeader} {b : TxnBody} (hdecode : decode p = .ok ⟨h, b⟩)
    (hknown : ∀ type raw, b ≠ .unknown type raw) {m : Nat} (hm : m < consumed p) :
    (∀ t, decode (p.take m) = .ok t ↔ ∃ b', Shortened h p m b b' ∧ t = ⟨h, b'⟩)
      ∧ ((∃ e, decode (p.take m) = .error e) ↔ ¬ ∃ b', Shortened h p m b b')
      ∧ ∀ t, decode (p.take m) = .ok t → t.header = h
        ∧ ((∃ paths, b = .closeSession paths ∧ t.body = .closeSession [])
          ∨ ∃ path data acl ephemeral v, b = .create path data acl ephemeral v
            ∧ t.body = .create path data acl ephemeral (-1)) := by
  have hcases := error_or_shortened hdecode hknown hm
  have hok (t : Txn) : decode (p.take m) = .ok t ↔ ∃ b', Shortened h p m b b' ∧ t = ⟨h, b'⟩ := by
    constructor
    · intro ht
      obtain ⟨e, herror⟩ | ⟨b', hshort⟩ := hcases
      · cases ht.symm.trans herror
      have hdecoded := hshort.decoded hdecode hm
      exact ⟨b', hshort, Except.ok.inj (ht.symm.trans hdecoded)⟩
    · rintro ⟨b', hshort, rfl⟩
      exact hshort.decoded hdecode hm
  refine ⟨hok, ?_, ?_⟩
  · constructor
    · rintro ⟨e, herror⟩ ⟨b', hshort⟩
      cases herror.symm.trans (hshort.decoded hdecode hm)
    · exact hcases.resolve_right
  · intro t ht
    obtain ⟨b', hshort, rfl⟩ := (hok t).mp ht
    refine ⟨rfl, ?_⟩
    cases hshort with
    | closeSession _ paths => exact .inl ⟨paths, rfl, rfl⟩
    | create => exact .inr ⟨_, _, _, _, _, rfl, rfl⟩

/-- The creation of a node as newer servers write it, with a digest. -/
def versioned : Bytes := creating.encode ++ (bare.encode ++ Field.int 7 ++ digest)

/-- A creation that is cut within its last field is one without it, and is refused if a byte of its
flag is gone, too. -/
theorem decode_cut_versioned :
    decode versioned = .ok ⟨creating, .create (some "/a") [] [] false 7⟩
      ∧ consumed versioned = 51
      ∧ decode (versioned.take 49) = .ok ⟨creating, .create (some "/a") [] [] false (-1)⟩
      ∧ ∃ e, decode (versioned.take 46) = .error e := by
  obtain ⟨-, hcreating, hbare⟩ := fits_older
  have hversion : BigEndian.Fits 4 7 := by decide
  have hdecode : decode versioned = .ok ⟨creating, bare.body 7⟩ := by
    have hfield := decode_create_version hcreating (.inl rfl) hbare hversion digest
    rwa [← List.append_assoc bare.encode] at hfield
  have hconsumed : consumed versioned = 51 :=
    consumed_create hcreating (.inl rfl) hbare hversion digest
  have hknown (type : Int) (raw : Bytes) : bare.body 7 ≠ .unknown type raw := by
    simp [Creation.body]
  refine ⟨hdecode, hconsumed, ?_, ?_⟩
  · have hwithin : 49 < consumed versioned := by omega
    have hlast : consumed versioned ≤ 49 + 4 := by omega
    refine ((decode_cut hdecode hknown hwithin).1 _).mpr ⟨_, ?_, rfl⟩
    exact .create (.inl rfl) hbare hversion rfl hlast
  · have hwithin : 46 < consumed versioned := by omega
    refine (decode_cut hdecode hknown hwithin).2.1.mpr ?_
    rintro ⟨_, hshort⟩
    have hread : consumed versioned ≤ 46 + 4 := by
      generalize bare.body 7 = b at hshort
      cases hshort with
      | create _ _ _ _ hm => exact hm
    omega

end Txn

end TxnLog
