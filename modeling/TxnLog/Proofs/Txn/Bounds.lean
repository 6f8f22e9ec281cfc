import TxnLog.Proofs.Archive.Honest
import TxnLog.Proofs.Txn.Members

/-!
# Bounds on what is decoded

What there is in a payload is bounded by its bytes, whatever counts and codes are in it. Every
element of a vector takes four bytes at least, and every multi transaction in another one twelve:
its code, its length and its count (`TxnBody.bounds`). A vector with a larger count than what is
left allows is `Overcounted` and is refused, and so nothing is read that is not there
(`Txn.decode_bounded`).

The recursion is that of decoding, on the bytes of a body: the elements of a multi transaction are
counted in its members, which have fewer bytes each and no more than the body has together.
-/

namespace TxnLog

open Archive

/-! ### Elements and depth -/

mutual

/-- The number of elements in the vectors of a body, in whatever depth. -/
def TxnBody.elements : TxnBody → Nat
  | .closeSession paths => paths.length
  | .create _ _ acl _ _ => acl.length
  | .createContainer _ _ acl _ => acl.length
  | .multi txns => SubTxn.elementsAll txns
  | _ => 0

/-- A sub-operation is an element, and so are those in its body. -/
def SubTxn.elements : SubTxn → Nat
  | .mk _ _ body => 1 + body.elements

/-- The number of elements in a list of sub-operations, themselves included. -/
def SubTxn.elementsAll : List SubTxn → Nat
  | [] => 0
  | t :: txns => t.elements + SubTxn.elementsAll txns

end

mutual

/-- The largest number of multi transactions of which each is within the one before it, the body
itself included. -/
def TxnBody.depth : TxnBody → Nat
  | .multi txns => SubTxn.depthAll txns + 1
  | _ => 0

/-- The depth of the body. -/
def SubTxn.depth : SubTxn → Nat
  | .mk _ _ body => body.depth

/-- The largest depth in a list of sub-operations. -/
def SubTxn.depthAll : List SubTxn → Nat
  | [] => 0
  | t :: txns => max t.depth (SubTxn.depthAll txns)

end

/-! ### What fields take -/

namespace Archive.Field

/-- A vector takes as much as its count tells, if each of its elements takes so much. -/
theorem mul_length_le_length_vector {α : Type} {element : α → Bytes} {least : Nat}
    (h : ∀ a, least ≤ (element a).length) (oas : Option (List α)) :
    least * (oas.getD []).length + 4 ≤ (vector element oas).length := by
  have helements : least * (oas.getD []).length ≤ ((oas.getD []).flatMap element).length :=
    mul_length_le_length_flatMap fun a _ => h a
  rw [length_vector]
  omega

/-- A text takes four bytes at least. -/
theorem four_le_length_string (s : Option String) : 4 ≤ (string s).length := by
  rw [string, length_buffer]
  exact Nat.le_add_right ..

end Archive.Field

/-- An access control entry takes twelve bytes at least. -/
theorem Acl.twelve_le_length_encode (a : Acl) : 12 ≤ a.encode.length := by
  have hint : (Field.int a.perms).length = 4 := BigEndian.length_ofInt ..
  have hscheme := Field.four_le_length_string a.scheme
  have hid := Field.four_le_length_string a.id
  rw [encode, List.length_append, List.length_append]
  omega

/-- A member takes eight bytes more than its buffer holds. -/
theorem Member.length_encode (m : Member) : m.encode.length = 8 + m.raw.length := by
  have hint : (Field.int m.code).length = 4 := BigEndian.length_ofInt ..
  rw [encode, List.length_append, Field.length_buffer, hint, raw]
  omega

/-! ### What bodies take -/

namespace TxnBody

/-- The creation of a container takes four bytes for each of its elements. -/
theorem readsOnly_readCreateContainer : ReadsOnly readCreateContainer fun b used =>
    4 * b.elements ≤ used.length ∧ b.depth = 0 := by
  refine ((readsOnly_string _).bind fun path => (readsOnly_bytes _).bind fun data =>
    (readsOnly_list _ Acl.readsOnly).bind fun acl =>
    (readsOnly_int _).map (createContainer path data acl)).mono ?_
  rintro _ _ ⟨path, _, _, -, ⟨data, _, _, -, ⟨_, _, _, ⟨acl, -, rfl, rfl⟩, ⟨v, -, rfl⟩, rfl⟩, rfl⟩,
    rfl⟩
  have hacl := Field.mul_length_le_length_vector Acl.twelve_le_length_encode acl
  simp only [elements, List.length_append]
  exact ⟨by omega, rfl⟩

/-- A body that is no multi transaction takes four bytes for each of its elements. -/
theorem flat_of_read {code : Int} (hmulti : code ≠ OpCode.multi.code) {position : Nat} {bs : Bytes}
    {b : TxnBody} {next : Cursor} (hread : read code ⟨position, bs⟩ = (.ok b, next)) :
    4 * b.elements ≤ bs.length ∧ b.depth = 0 := by
  by_cases hnone : ∀ op ∈ OpCode.withLayout, code ≠ op.code
  · rw [read_unknown hnone] at hread
    cases hread
    exact ⟨Nat.zero_le _, rfl⟩
  push Not at hnone
  obtain ⟨op, hlayout, rfl⟩ := hnone
  rw [read_code (by rintro rfl; exact hmulti rfl)] at hread
  cases op with
  | closeSession =>
    obtain ⟨rfl, rfl, -⟩ | ⟨paths, rest, -, rfl, rfl, -⟩ := of_readCloseSession hread
    · exact ⟨Nat.zero_le _, rfl⟩
    have hpaths := Field.mul_length_le_length_vector Field.four_le_length_string paths
    rw [elements, List.length_append]
    exact ⟨by omega, rfl⟩
  | create | create2 =>
    obtain ⟨k, -, hbehind⟩ := of_readCreate hread
    have hacl := Field.mul_length_le_length_vector Acl.twelve_le_length_encode k.acl
    have hencode : 12 * (k.acl.getD []).length ≤ k.encode.length := by
      simp only [Creation.encode, List.length_append]
      omega
    obtain ⟨behind, -, rfl, rfl, -⟩ | ⟨v, rest, -, rfl, rfl, -⟩ := hbehind
    all_goals
      simp only [Creation.body, elements, List.length_append]
      exact ⟨by omega, rfl⟩
  | createContainer =>
    obtain ⟨used, rest, rfl, -, hused, hdepth⟩ := readsOnly_readCreateContainer _ _ _ _ hread
    rw [List.length_append]
    exact ⟨by omega, hdepth⟩
  | createSession | error =>
    obtain ⟨_, _, -, hb⟩ := Attempt.bind_eq_ok_iff.mp hread
    cases hb
    exact ⟨Nat.zero_le _, rfl⟩
  | delete | deleteContainer =>
    obtain ⟨_, _, -, hb⟩ := Attempt.bind_eq_ok_iff.mp hread
    cases hb
    exact ⟨Nat.zero_le _, rfl⟩
  | setData | reconfig =>
    obtain ⟨_, _, -, hread⟩ := Attempt.bind_eq_ok_iff.mp hread
    obtain ⟨_, _, -, hread⟩ := Attempt.bind_eq_ok_iff.mp hread
    obtain ⟨_, _, -, hb⟩ := Attempt.bind_eq_ok_iff.mp hread
    cases hb
    exact ⟨Nat.zero_le _, rfl⟩
  | multi => exact absurd rfl hmulti
  | _ => exact absurd hlayout (by decide)

end TxnBody

namespace Member

/-- A member takes four bytes for each of its elements, itself included, and twelve for each multi
transaction, if its body takes as much as it should. -/
theorem bounds {m : Member} (hfits : m.Fits)
    (hbody : ∀ body next, TxnBody.read m.code (Cursor.ofBytes m.raw) = (.ok body, next) →
      4 * body.elements ≤ m.raw.length ∧ 12 * body.depth ≤ m.raw.length + 8) :
    4 * m.txn.elements ≤ m.encode.length ∧ 12 * m.txn.depth ≤ m.encode.length := by
  rw [length_encode]
  obtain ⟨body, htxn, ⟨next, hread⟩ | ⟨rfl, -⟩⟩ := exists_body hfits
  · obtain ⟨helements, hdepth⟩ := hbody body next hread
    rw [htxn, SubTxn.elements, SubTxn.depth]
    omega
  · have helements : (TxnBody.unknown m.code m.raw).elements = 0 := rfl
    have hdepth : (TxnBody.unknown m.code m.raw).depth = 0 := rfl
    rw [htxn, SubTxn.elements, SubTxn.depth, helements, hdepth]
    omega

/-- Members take as much together. -/
theorem bounds_all {members : List Member}
    (h : ∀ m ∈ members, 4 * m.txn.elements ≤ m.encode.length
      ∧ 12 * m.txn.depth ≤ m.encode.length) :
    4 * SubTxn.elementsAll (members.map txn) ≤ (members.flatMap encode).length
      ∧ 12 * SubTxn.depthAll (members.map txn) ≤ (members.flatMap encode).length := by
  induction members with
  | nil => exact ⟨Nat.zero_le _, Nat.zero_le _⟩
  | cons m members ih =>
    obtain ⟨⟨helements, hdepth⟩, hmembers⟩ := List.forall_mem_cons.mp h
    obtain ⟨helements', hdepth'⟩ := ih hmembers
    rw [List.map_cons, SubTxn.elementsAll, SubTxn.depthAll, List.flatMap_cons, List.length_append]
    omega

end Member

namespace TxnBody

/-- A body takes four bytes for each of its elements, and twelve for each multi transaction but the
outermost one, which takes four. -/
theorem bounds {code : Int} {position : Nat} {bs : Bytes} {b : TxnBody} {next : Cursor}
    (hread : read code ⟨position, bs⟩ = (.ok b, next)) :
    4 * b.elements ≤ bs.length ∧ 12 * b.depth ≤ bs.length + 8 := by
  induction hn : bs.length using Nat.strongRecOn generalizing code position bs b next with
  | ind n ih =>
  subst hn
  by_cases hmulti : code = OpCode.multi.code
  · subst hmulti
    obtain ⟨members, rest, hfits, rfl, rfl, -⟩ := of_read_multi hread
    have hlength := Field.length_vector Member.encode members
    have hmember : ∀ m ∈ members.getD [], 4 * m.txn.elements ≤ m.encode.length
        ∧ 12 * m.txn.depth ≤ m.encode.length := by
      intro m hm
      obtain ⟨whole, rfl⟩ : ∃ whole, members = some whole := by
        cases members with
        | none => simp at hm
        | some whole => exact ⟨whole, rfl⟩
      -- A member has fewer bytes than the body.
      have hpart : m.encode.length ≤ (whole.flatMap Member.encode).length := by
        rw [List.flatMap_def]
        exact (List.infix_of_mem_flatten (List.mem_map_of_mem hm)).length_le
      have hencode := m.length_encode
      refine Member.bounds ((hfits whole rfl).2 m hm) fun body next hread => ?_
      refine ih _ ?_ hread rfl
      rw [List.length_append, hlength, Option.getD_some]
      omega
    obtain ⟨helements, hdepth⟩ := Member.bounds_all hmember
    rw [elements, depth, List.length_append, hlength]
    omega
  · obtain ⟨helements, hdepth⟩ := flat_of_read hmulti hread
    rw [hdepth]
    exact ⟨helements, Nat.zero_le _⟩

end TxnBody

/-! ### Counts that are too large -/

/-- The code and the serialized body of a sub-operation take eight bytes at least. -/
theorem SubTxn.readsOnly_readRaw : ReadsOnly readRaw fun _ used => 8 ≤ used.length := by
  refine ((readsOnly_int _).bind fun code => (readsOnly_bytes _).map fun raw => (code, raw)).mono ?_
  rintro _ _ ⟨code, _, _, ⟨-, rfl⟩, ⟨_, ⟨buffer, -, rfl, rfl⟩, rfl⟩, rfl⟩
  rw [List.length_append, Field.length_buffer, Field.int, BigEndian.length_ofInt]
  omega

namespace TxnBody

/-- A body with a vector whose count is larger than what is left behind it allows. -/
inductive Overcounted (code : Int) : Bytes → Prop
  /-- The paths at the end of a session. -/
  | paths (hcode : code = OpCode.closeSession.code) {count : Nat} {rest : Bytes}
      (hcount : count < Field.lengths) (hover : rest.length < 4 * count) :
    Overcounted code (Field.int count ++ rest)
  /-- The access control list at the creation of a node or container. -/
  | acl (hcode : code = OpCode.create.code ∨ code = OpCode.create2.code
        ∨ code = OpCode.createContainer.code) {path : Option String} {data : Option Bytes}
      (hpath : Field.FitsString path) (hdata : Field.FitsBuffer data) {count : Nat} {rest : Bytes}
      (hcount : count < Field.lengths) (hover : rest.length < 12 * count) :
    Overcounted code (Field.string path ++ (Field.buffer data ++ (Field.int count ++ rest)))
  /-- The members of a multi transaction. -/
  | members (hcode : code = OpCode.multi.code) {count : Nat} {rest : Bytes}
      (hcount : count < Field.lengths) (hover : rest.length < 8 * count) :
    Overcounted code (Field.int count ++ rest)

/-- A body with too large a count is refused. -/
theorem Overcounted.refuses {code : Int} {bs : Bytes} (h : Overcounted code bs) :
    Refuses (read code) bs := by
  cases h with
  | @paths hcode count rest hcount hover =>
    have hpath : ReadsOnly (string "path") fun _ used => 4 ≤ used.length :=
      (readsOnly_string "path").mono fun s _ hs => hs.2 ▸ Field.four_le_length_string s
    have hvector := refuses_vector_of_lt "paths2Delete" hpath hcount hover
    have hne : Field.int count ++ rest ≠ [] := by
      refine List.ne_nil_of_length_pos ?_
      rw [List.length_append, Field.int, BigEndian.length_ofInt]
      omega
    intro position
    rw [read_closeSession hcode, readCloseSession_of_ne hne]
    exact hvector.bind _ position
  | acl hcode hpath hdata hcount hover =>
    have hacl : ReadsOnly Acl.read fun _ used => 12 ≤ used.length :=
      Acl.readsOnly.mono fun a _ ha => ha.2 ▸ a.twelve_le_length_encode
    have hvector := refuses_vector_of_lt "acl" hacl hcount hover
    -- Both layouts start with a path, data and the list.
    have hlayout {f : Option String → Bytes → List Acl → Reader TxnBody} :=
      (reads_string "path" hpath).refuses_bind (f := fun path => bytes "data" >>= fun data =>
        vector "acl" Acl.read >>= f path data)
        ((reads_bytes "data" hdata).refuses_bind (hvector.bind _))
    rcases hcode with rfl | rfl | rfl
    all_goals
      rw [read_code (by decide)]
      exact hlayout
  | members hcode hcount hover =>
    rw [hcode, read_multi_eq]
    exact (refuses_vector_of_lt _ SubTxn.readsOnly_readRaw hcount hover).bind _

/-! ### What errors tell -/

/-- Where the body of an operation is refused, the error tells why. -/
theorem honest (code : Int) : Honest (read code) := by
  by_cases hmulti : code = OpCode.multi.code
  · subst hmulti
    rw [read_multi_eq]
    exact (((honest_int _).bind fun code => (honest_bytes _).map _).vector _).map _
  by_cases hnone : ∀ op ∈ OpCode.withLayout, code ≠ op.code
  · rw [read_unknown hnone]
    exact honest_rest.map _
  push Not at hnone
  obtain ⟨op, hlayout, rfl⟩ := hnone
  have hacl : Honest Acl.read :=
    (honest_int _).bind fun _ => (honest_string _).bind fun _ => (honest_string _).map _
  rw [read_code (by rintro rfl; exact hmulti rfl)]
  cases op with
  | createSession => exact (honest_int _).map _
  | closeSession =>
    refine honest_remaining.bind fun left => ?_
    split
    · exact .pure _
    · exact ((honest_string _).vector _).map _
  | create | create2 =>
    refine (honest_string _).bind fun _ => (honest_bytes _).bind fun _ =>
      (hacl.vector _).bind fun _ => (honest_bool _).bind fun _ =>
        honest_remaining.bind fun left => ?_
    split
    · exact (honest_int _).map _
    · exact .pure _
  | createContainer =>
    exact (honest_string _).bind fun _ => (honest_bytes _).bind fun _ =>
      (hacl.vector _).bind fun _ => (honest_int _).map _
  | delete | deleteContainer => exact (honest_string _).map _
  | setData | reconfig =>
    exact (honest_string _).bind fun _ => (honest_bytes _).bind fun _ => (honest_int _).map _
  | error => exact (honest_int _).map _
  | multi => exact absurd rfl hmulti
  | _ => exact absurd hlayout (by decide)

end TxnBody

namespace Txn

/-- Where a transaction is refused, the error tells why. -/
theorem honest : Honest read :=
  ((honest_long _).bind fun _ => (honest_int _).bind fun _ => (honest_long _).bind fun _ =>
    (honest_long _).bind fun _ => (honest_int _).map _).bind fun header =>
      (TxnBody.honest header.type).map _

/-- A payload that is refused is as the error tells. -/
theorem tells_of_decode {p : Bytes} {e : DecodeError} (h : decode p = .error e) :
    e.Tells p.length := by
  unfold decode at h
  split at h
  · next hempty =>
    cases h
    rw [List.isEmpty_iff] at hempty
    exact congrArg List.length hempty
  · have hhonest := honest (Cursor.ofBytes p)
    cases hread : read (Cursor.ofBytes p) with
    | mk result next =>
    rw [hread] at h hhonest
    obtain rfl : result = .error e := h
    simpa [Cursor.ofBytes] using hhonest

/-- A transaction takes the bytes of its header and of its body. -/
theorem bounds_of_decode {p : Bytes} {t : Txn} (h : decode p = .ok t) :
    TxnHeader.size + 4 * t.body.elements ≤ p.length
      ∧ TxnHeader.size + 12 * (t.body.depth - 1) ≤ p.length := by
  obtain ⟨header, body⟩ := t
  obtain ⟨-, bs, next, rfl, hread⟩ := of_decode h
  obtain ⟨helements, hdepth⟩ := TxnBody.bounds hread
  rw [List.length_append, header.length_encode]
  dsimp only
  omega

/-- Every payload is decoded or refused with an error that tells what is wrong. What is decoded is
bounded by the bytes: four for each element of a vector, and twelve for each multi transaction
within the outermost one. A body with too large a count is refused, also that of a member. -/
theorem decode_bounded (p : Bytes) :
    ((∃ t, decode p = .ok t ∧ TxnHeader.size + 4 * t.body.elements ≤ p.length
        ∧ TxnHeader.size + 12 * (t.body.depth - 1) ≤ p.length)
      ∨ ∃ e, decode p = .error e ∧ e.Tells p.length)
    ∧ (∀ (h : TxnHeader) (bs : Bytes), h.Fits → p = h.encode ++ bs →
      TxnBody.Overcounted h.type bs → ∃ e, decode p = .error e)
    ∧ ∀ code, TxnBody.Overcounted code p → SubTxn.decoded code p = .mk code p (.unknown code p) := by
  refine ⟨?_, ?_, ?_⟩
  · cases hdecode : decode p with
    | ok t => exact .inl ⟨t, rfl, bounds_of_decode hdecode⟩
    | error e => exact .inr ⟨e, rfl, tells_of_decode hdecode⟩
  · rintro h bs hfits rfl hover
    obtain ⟨e, next, herror⟩ := hover.refuses TxnHeader.size
    exact ⟨e, decode_of_error hfits herror⟩
  · intro code hover
    obtain ⟨e, next, herror⟩ := hover.refuses 0
    rw [SubTxn.decoded, Cursor.ofBytes, herror]

/-- The largest count there is, with four bytes behind it. -/
def boasting : Bytes := Field.int (0x7fffffff : Nat) ++ Field.int (-1)

/-- The end of a session that promises more paths than there are bytes is refused, and kept as it is
in a multi transaction. -/
theorem decode_bounded_boasting :
    TxnHeader.Fits ⟨0x100, 1, 2, 1700000000123, -11⟩ ∧ TxnBody.Overcounted (-11) boasting
      ∧ (∃ e, decode (TxnHeader.encode ⟨0x100, 1, 2, 1700000000123, -11⟩ ++ boasting) = .error e)
      ∧ SubTxn.decoded (-11) boasting = .mk (-11) boasting (.unknown (-11) boasting) := by
  have hfits : TxnHeader.Fits ⟨0x100, 1, 2, 1700000000123, -11⟩ := by
    constructor <;> decide
  have hover : TxnBody.Overcounted (-11) boasting := .paths rfl (by decide) (by decide)
  exact ⟨hfits, hover, (decode_bounded _).2.1 _ boasting hfits rfl hover,
    (decode_bounded boasting).2.2 _ hover⟩

end Txn

end TxnLog
