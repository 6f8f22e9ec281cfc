import TxnLog.Proofs.Archive.Refused
import TxnLog.Proofs.Txn.Layout

/-!
# The members of a multi transaction stand alone

A multi transaction is written as a count and as many codes and buffers. A `Member` may have any
bytes in its buffer, a body or not, or members of its own. Whatever they are, the members are
decoded one by one, each as if there were no others (`Member.decoded_eq`), so that another member in
the place of one changes nothing elsewhere, at any depth (`Member.at?_of_replace?`). Only a count, a
code, a length or a buffer that is cut, or a number below that of null, is an error
(`TxnBody.read_multi_error_iff`): a buffer's content never is.

The last of these rests on a case distinction on the bytes alone (`exists_whole`): members are whole
up to some place, and behind it nothing is missing or the `BrokenMember` follows.
-/

namespace TxnLog

open Archive

/-- A member of a multi transaction as a writer has it. -/
inductive Member where
  /-- A code, and a buffer of any bytes or null. -/
  | plain (code : Int) (buffer : Option Bytes)
  /-- Members of a multi transaction within this one. -/
  | bundle (members : List Member)

namespace Member

/-- The operation code of a member. -/
def code : Member → Int
  | plain code _ => code
  | bundle _ => OpCode.multi.code

mutual

/-- The buffer of a member. -/
def buffer : Member → Option Bytes
  | plain _ buffer => buffer
  | bundle members => some (Field.int members.length ++ encodeAll members)

/-- Members as they are written, one after the other. -/
def encodeAll : List Member → Bytes
  | [] => []
  | m :: members => Field.int m.code ++ Field.buffer m.buffer ++ encodeAll members

end

/-- A member as it is written. -/
def encode (m : Member) : Bytes := Field.int m.code ++ Field.buffer m.buffer

/-- The bytes of a member, none for null. -/
def raw (m : Member) : Bytes := m.buffer.getD []

mutual

/-- What there is to read in a member. The members within it are decoded from their own bytes. -/
def txn : Member → SubTxn
  | plain code buffer => .decoded code (buffer.getD [])
  | bundle members => .mk OpCode.multi.code (bundle members).raw (.multi (txns members))

/-- What there is to read in members. -/
def txns : List Member → List SubTxn
  | [] => []
  | m :: members => m.txn :: txns members

end

mutual

/-- The code and the length of a member fit their fields, and so do those of the members in it. -/
def Fits : Member → Prop
  | plain code buffer => BigEndian.Fits 4 code ∧ Field.FitsBuffer buffer
  | bundle members =>
    members.length < Field.lengths ∧ AllFit members ∧ (bundle members).raw.length < Field.lengths

/-- All members fit. -/
def AllFit : List Member → Prop
  | [] => True
  | m :: members => m.Fits ∧ AllFit members

end

/-- The member with a new one in the place that the path leads to. -/
def replace? : Member → (path : List Nat) → (new : Member) → Option Member
  | _, [], new => some new
  | plain .., _ :: _, _ => none
  | bundle members, i :: path, new => do
    let m ← members[i]?
    let m' ← m.replace? path new
    return bundle (members.set i m')

/-! ### Members as vectors -/

/-- Members are written one after the other. -/
theorem encodeAll_eq (members : List Member) : encodeAll members = members.flatMap encode := by
  induction members with
  | nil => rfl
  | cons m members ih => rw [encodeAll, ih, List.flatMap_cons, encode]

/-- Members are read one after the other. -/
theorem txns_eq (members : List Member) : txns members = members.map txn := by
  induction members with
  | nil => rfl
  | cons m members ih => rw [txns, ih, List.map_cons]

/-- All members fit if each one does. -/
theorem allFit_iff (members : List Member) : AllFit members ↔ ∀ m ∈ members, m.Fits := by
  induction members with
  | nil => simp [AllFit]
  | cons m members ih => rw [AllFit, ih, List.forall_mem_cons]

/-- The members of a member are written as a vector. -/
theorem raw_bundle (members : List Member) :
    (bundle members).raw = Field.vector encode (some members) := by
  rw [raw, buffer, encodeAll_eq, Option.getD_some, Field.vector]

/-- The members of a member fit as a vector does. -/
theorem Fits.vector {members : List Member} (hfits : (bundle members).Fits) :
    Field.FitsVector Fits (some members) := by
  rw [Fits, allFit_iff] at hfits
  rintro _ ⟨⟩
  exact ⟨hfits.1, hfits.2.1⟩

/-! ### Members are read back -/

/-- The code and the buffer of a member are read from what it is written as. -/
theorem Fits.reads_raw {m : Member} (hfits : m.Fits) :
    Reads SubTxn.readRaw m.encode (m.code, m.raw) := by
  unfold encode
  cases m with
  | plain code buffer =>
    rw [Fits] at hfits
    exact (reads_int _ hfits.1).bind ((reads_bytes _ hfits.2).map _)
  | bundle members =>
    rw [Fits] at hfits
    have hbuffer : Field.FitsBuffer (bundle members).buffer := by
      rw [buffer]
      rintro _ ⟨⟩
      exact hfits.2.2
    have hcode : BigEndian.Fits 4 OpCode.multi.code := by decide
    exact (reads_int _ hcode).bind ((reads_bytes _ hbuffer).map _)

/-- A multi transaction is read from its members as codes and buffers, and then each buffer is
decoded. -/
theorem reads_decoded {members : Option (List Member)} (hfits : Field.FitsVector Fits members) :
    Reads (TxnBody.read OpCode.multi.code) (Field.vector encode members)
      (.multi ((members.getD []).map fun m => SubTxn.decoded m.code m.raw)) := by
  rw [TxnBody.read_multi_eq]
  have hraw := (reads_vector "txns" hfits fun _ => Fits.reads_raw).map
    fun subs => TxnBody.multi (subs.map fun s => SubTxn.decoded s.1 s.2)
  rwa [List.map_map] at hraw

mutual

/-- A member is decoded from its own bytes. -/
theorem decoded_eq : (m : Member) → m.Fits → SubTxn.decoded m.code m.raw = m.txn
  | plain .., _ => by rw [txn]; rfl
  | bundle members, hfits => by
    have hvector := hfits.vector
    have hread := (reads_decoded hvector).last 0
    have hmembers : members.map (fun m => SubTxn.decoded m.code m.raw) = members.map txn :=
      List.map_congr_left (decoded_all members (hvector members rfl).2)
    rw [Option.getD_some, hmembers, ← raw_bundle] at hread
    rw [SubTxn.decoded, code, Cursor.ofBytes, hread, txn, txns_eq]

/-- Members are decoded from their own bytes. -/
theorem decoded_all : (members : List Member) → (∀ m ∈ members, m.Fits) →
    ∀ m ∈ members, SubTxn.decoded m.code m.raw = m.txn
  | [], _ => by simp
  | m :: members, hfits => by
    rw [List.forall_mem_cons] at hfits ⊢
    exact ⟨decoded_eq m hfits.1, decoded_all members hfits.2⟩

end

/-- A multi transaction is read from its members, each as what there is to read in it. -/
theorem reads_multi {members : Option (List Member)} (hfits : Field.FitsVector Fits members) :
    Reads (TxnBody.read OpCode.multi.code) (Field.vector encode members)
      (.multi ((members.getD []).map txn)) := by
  have hread := reads_decoded hfits
  cases members with
  | none => exact hread
  | some members =>
    rwa [Option.getD_some, List.map_congr_left (decoded_all members (hfits members rfl).2)] at hread

end Member

/-! ### One member in the place of another -/

/-- The sub-operations of a body. -/
def TxnBody.txns : TxnBody → List SubTxn
  | .multi txns => txns
  | _ => []

/-- What the path leads to within a sub-operation. -/
def SubTxn.at? : (path : List Nat) → SubTxn → Option SubTxn
  | [], s => some s
  | i :: path, s => s.body.txns[i]?.bind (at? path)

namespace Member

/-- Within a member, a path leads into what there is to read in its members. -/
theorem at?_cons_bundle (i : Nat) (path : List Nat) (members : List Member) :
    (bundle members).txn.at? (i :: path) = members[i]?.bind fun m => m.txn.at? path := by
  rw [txn, SubTxn.at?, SubTxn.body, TxnBody.txns, txns_eq, List.getElem?_map]
  cases members[i]? <;> rfl

/-- A member in the place of another is found there, and nothing has changed in places that neither
lead to it nor into it. -/
theorem at?_of_replace? {new m m' : Member} {path : List Nat} (h : m.replace? path new = some m') :
    m'.txn.at? path = some new.txn
      ∧ ∀ other, ¬ path <+: other → ¬ other <+: path → m'.txn.at? other = m.txn.at? other := by
  induction path generalizing m m' with
  | nil =>
    obtain rfl := Option.some.inj h
    exact ⟨rfl, fun other hpre => absurd List.nil_prefix hpre⟩
  | cons i path ih =>
    cases m with
    | plain code buffer => cases h
    | bundle members =>
      simp only [replace?, Option.bind_eq_bind, Option.bind_eq_some_iff] at h
      obtain ⟨old, hold, within, hwithin, hm'⟩ := h
      obtain rfl := Option.some.inj hm'
      obtain ⟨hnew, hothers⟩ := ih hwithin
      have hi : i < members.length := (List.getElem?_eq_some_iff.mp hold).1
      constructor
      · rw [at?_cons_bundle, List.getElem?_set_self hi]
        exact hnew
      · intro other hpath hother
        cases other with
        | nil => exact absurd List.nil_prefix hother
        | cons j other =>
          rw [at?_cons_bundle, at?_cons_bundle]
          by_cases hij : i = j
          · subst hij
            rw [List.getElem?_set_self hi, hold]
            exact hothers other (fun hpre => hpath (List.cons_prefix_cons.mpr ⟨rfl, hpre⟩))
              fun hpre => hother (List.cons_prefix_cons.mpr ⟨rfl, hpre⟩)
          · rw [List.getElem?_set_ne hij]

end Member

/-! ### Broken framing -/

/-- What stands in the place of a member is none: something of it is cut, or the number that tells
its length is below that of null. -/
inductive BrokenMember : Bytes → Prop
  /-- The code is cut. -/
  | code {bs : Bytes} (hcut : bs.length < 4) : BrokenMember bs
  /-- The length is cut. -/
  | length {code : Int} {bs : Bytes} (hcode : BigEndian.Fits 4 code) (hcut : bs.length < 4) :
    BrokenMember (Field.int code ++ bs)
  /-- The length is below that of null. -/
  | negative {code length : Int} (hcode : BigEndian.Fits 4 code)
      (hlength : BigEndian.Fits 4 length) (hlow : length < -1) (rest : Bytes) :
    BrokenMember (Field.int code ++ (Field.int length ++ rest))
  /-- The buffer is cut. -/
  | buffer {code : Int} {length : Nat} {bs : Bytes} (hcode : BigEndian.Fits 4 code)
      (hlength : length < Field.lengths) (hcut : bs.length < length) :
    BrokenMember (Field.int code ++ (Field.int length ++ bs))

/-- What stands in the place of a multi transaction is none, whatever the buffers hold. -/
inductive BrokenFraming : Bytes → Prop
  /-- The count is cut. -/
  | count {bs : Bytes} (hcut : bs.length < 4) : BrokenFraming bs
  /-- The count is below that of null. -/
  | negative {count : Int} (hcount : BigEndian.Fits 4 count) (hlow : count < -1) (rest : Bytes) :
    BrokenFraming (Field.int count ++ rest)
  /-- Behind fewer members than the count tells, there follows none. -/
  | member {count : Nat} {whole : List Member} {bs : Bytes} (hcount : count < Field.lengths)
      (hwhole : ∀ m ∈ whole, m.Fits) (hfewer : whole.length < count) (hbroken : BrokenMember bs) :
    BrokenFraming (Field.int count ++ (whole.flatMap Member.encode ++ bs))

/-- A broken member is refused. -/
theorem BrokenMember.refuses {bs : Bytes} (h : BrokenMember bs) : Refuses SubTxn.readRaw bs := by
  cases h with
  | code hcut => exact (refuses_int _ hcut).bind _
  | length hcode hcut =>
    exact (reads_int _ hcode).refuses_bind ((refuses_bytes_of_lt _ hcut).bind _)
  | negative hcode hlength hlow rest =>
    exact (reads_int _ hcode).refuses_bind ((refuses_bytes_negative _ hlength hlow rest).bind _)
  | buffer hcode hlength hcut =>
    exact (reads_int _ hcode).refuses_bind ((refuses_bytes_cut _ hlength hcut).bind _)

/-- A multi transaction whose framing is broken is refused. -/
theorem BrokenFraming.refuses {bs : Bytes} (h : BrokenFraming bs) :
    Refuses (TxnBody.read OpCode.multi.code) bs := by
  rw [TxnBody.read_multi_eq]
  refine Refuses.bind ?_ _
  cases h with
  | count hcut => exact refuses_vector_of_short _ _ hcut
  | negative hcount hlow rest => exact refuses_vector_negative _ _ hcount hlow rest
  | member hcount hwhole hfewer hbroken =>
    exact refuses_vector _ (fun m hm => (hwhole m hm).reads_raw) hcount hfewer hbroken.refuses

/-- Bytes start with a number, or there are too few of them. -/
theorem exists_number (bs : Bytes) : bs.length < 4 ∨
    (∃ n rest, BigEndian.Fits 4 n ∧ n < -1 ∧ bs = Field.int n ++ rest)
      ∨ (∃ rest, bs = Field.int (-1) ++ rest)
      ∨ ∃ (n : Nat) (rest : Bytes), n < Field.lengths ∧ bs = Field.int n ++ rest := by
  by_cases hcut : bs.length < 4
  · exact .inl hcut
  obtain ⟨n, rest, hn, rfl⟩ := exists_int_append (Nat.le_of_not_lt hcut)
  by_cases hlow : n < -1
  · exact .inr (.inl ⟨n, rest, hn, hlow, rfl⟩)
  by_cases hnull : n = -1
  · exact .inr (.inr (.inl ⟨rest, by rw [hnull]⟩))
  obtain ⟨k, rfl⟩ := Int.eq_ofNat_of_zero_le (show 0 ≤ n by omega)
  exact .inr (.inr (.inr ⟨k, rest, lt_lengths_of_fits hn, rfl⟩))

/-- In the place of a member there is a broken one or a whole one. -/
theorem brokenMember_or_whole (bs : Bytes) :
    BrokenMember bs ∨ ∃ (m : Member) (rest : Bytes), m.Fits ∧ bs = m.encode ++ rest := by
  by_cases hcut : bs.length < 4
  · exact .inl (.code hcut)
  obtain ⟨code, behind, hcode, rfl⟩ := exists_int_append (Nat.le_of_not_lt hcut)
  -- A member is whole with the buffer that follows its code.
  have hwhole {buffer : Option Bytes} (hbuffer : Field.FitsBuffer buffer) (rest : Bytes) :
      ∃ (m : Member) (rest' : Bytes), m.Fits
        ∧ Field.int code ++ (Field.buffer buffer ++ rest) = m.encode ++ rest' :=
    ⟨.plain code buffer, rest, by rw [Member.Fits]; exact ⟨hcode, hbuffer⟩,
      (List.append_assoc ..).symm⟩
  obtain hcut | ⟨n, rest, hn, hlow, rfl⟩ | ⟨rest, rfl⟩ | ⟨n, rest, hn, rfl⟩ := exists_number behind
  · exact .inl (.length hcode hcut)
  · exact .inl (.negative hcode hn hlow rest)
  · have hnull : Field.FitsBuffer none := by rintro _ ⟨⟩
    exact .inr (hwhole hnull rest)
  · by_cases hcut : rest.length < n
    · exact .inl (.buffer hcode hn hcut)
    have hlength : (rest.take n).length = n := List.length_take_of_le (Nat.le_of_not_lt hcut)
    have hfits : Field.FitsBuffer (some (rest.take n)) := by
      rintro _ ⟨⟩
      rwa [hlength]
    have hsplit : Field.int n ++ rest = Field.buffer (some (rest.take n)) ++ rest.drop n := by
      rw [Field.buffer, hlength, List.append_assoc, List.take_append_drop]
    rw [hsplit]
    exact .inr (hwhole hfits _)

/-- Members are whole up to some place, where there are enough of them or a broken one follows. -/
theorem exists_whole (count : Nat) (bs : Bytes) :
    ∃ (whole : List Member) (rest : Bytes), (∀ m ∈ whole, m.Fits)
      ∧ bs = whole.flatMap Member.encode ++ rest
      ∧ (whole.length = count ∨ whole.length < count ∧ BrokenMember rest) := by
  induction count generalizing bs with
  | zero => exact ⟨[], bs, by simp, rfl, .inl rfl⟩
  | succ count ih =>
    rcases brokenMember_or_whole bs with hbroken | ⟨m, behind, hm, rfl⟩
    · exact ⟨[], bs, by simp, rfl, .inr ⟨Nat.succ_pos count, hbroken⟩⟩
    obtain ⟨whole, rest, hwhole, rfl, henough⟩ := ih behind
    exact ⟨m :: whole, rest, List.forall_mem_cons.mpr ⟨hm, hwhole⟩,
      by rw [List.flatMap_cons, List.append_assoc],
      henough.imp (congrArg (· + 1)) fun ⟨hfewer, hbroken⟩ => ⟨Nat.succ_lt_succ hfewer, hbroken⟩⟩

/-- In the place of a multi transaction, the framing is broken or there are all of the members. -/
theorem brokenFraming_or_members (bs : Bytes) : BrokenFraming bs ∨
    ∃ (members : Option (List Member)) (rest : Bytes), Field.FitsVector Member.Fits members
      ∧ bs = Field.vector Member.encode members ++ rest := by
  obtain hcut | ⟨n, rest, hn, hlow, rfl⟩ | ⟨rest, rfl⟩ | ⟨n, rest, hn, rfl⟩ := exists_number bs
  · exact .inl (.count hcut)
  · exact .inl (.negative hn hlow rest)
  · exact .inr ⟨none, rest, by rintro _ ⟨⟩, rfl⟩
  · obtain ⟨whole, rest, hwhole, rfl, rfl | ⟨hfewer, hbroken⟩⟩ := exists_whole n rest
    · refine .inr ⟨some whole, rest, ?_, (List.append_assoc ..).symm⟩
      rintro _ ⟨⟩
      exact ⟨hn, hwhole⟩
    · exact .inl (.member hn hwhole hfewer hbroken)

namespace TxnBody

/-- A multi transaction is read only from its members. -/
theorem of_read_multi {position : Nat} {bs : Bytes} {b : TxnBody} {next : Cursor}
    (hread : read OpCode.multi.code ⟨position, bs⟩ = (.ok b, next)) :
    ∃ (members : Option (List Member)) (rest : Bytes), Field.FitsVector Member.Fits members
      ∧ bs = Field.vector Member.encode members ++ rest
      ∧ b = .multi ((members.getD []).map Member.txn)
      ∧ next = ⟨position + (Field.vector Member.encode members).length, rest⟩ := by
  rcases brokenFraming_or_members bs with hbroken | ⟨members, rest, hfits, rfl⟩
  · exact absurd hread hbroken.refuses.ne_ok
  · rw [Member.reads_multi hfits position rest] at hread
    cases hread
    exact ⟨members, rest, hfits, rfl, rfl, rfl⟩

/-- A multi transaction is refused exactly if its framing is broken. -/
theorem read_multi_error_iff (position : Nat) (bs : Bytes) :
    (∃ e next, read OpCode.multi.code ⟨position, bs⟩ = (.error e, next)) ↔ BrokenFraming bs := by
  constructor
  · rintro ⟨e, next, herror⟩
    refine (brokenFraming_or_members bs).resolve_right ?_
    rintro ⟨members, rest, hfits, rfl⟩
    rw [Member.reads_multi hfits position rest] at herror
    cases herror
  · intro hbroken
    exact hbroken.refuses position

end TxnBody

/-! ### Members alone -/

namespace Member

/-- A member keeps its code and its bytes, and its body is what is decoded from these alone, or
those bytes if nothing is. -/
theorem exists_body {m : Member} (hfits : m.Fits) :
    ∃ body, m.txn = .mk m.code m.raw body
      ∧ ((∃ next, TxnBody.read m.code (Cursor.ofBytes m.raw) = (.ok body, next))
        ∨ body = .unknown m.code m.raw
          ∧ ∃ e next, TxnBody.read m.code (Cursor.ofBytes m.raw) = (.error e, next)) := by
  rw [← decoded_eq m hfits, SubTxn.decoded]
  cases hread : TxnBody.read m.code (Cursor.ofBytes m.raw) with
  | mk result next =>
  cases result with
  | ok body => exact ⟨body, rfl, .inl ⟨next, rfl⟩⟩
  | error e => exact ⟨_, rfl, .inr ⟨rfl, e, next, rfl⟩⟩

/-- The members of a multi transaction are decoded in their order, each from its own code and bytes,
and another one in the place of a member changes nothing elsewhere, in whatever depth it is. A multi
transaction is refused only for its framing. -/
theorem decoded_alone {members : List Member} (hfits : Field.FitsVector Fits (some members)) :
    Reads (TxnBody.read OpCode.multi.code) (Field.vector encode (some members))
        (.multi (members.map txn))
      ∧ (∀ m ∈ members, ∃ body, m.txn = .mk m.code m.raw body
        ∧ ((∃ next, TxnBody.read m.code (Cursor.ofBytes m.raw) = (.ok body, next))
          ∨ body = .unknown m.code m.raw
            ∧ ∃ e next, TxnBody.read m.code (Cursor.ofBytes m.raw) = (.error e, next)))
      ∧ (∀ i (new : Member), new.Fits →
        Reads (TxnBody.read OpCode.multi.code) (Field.vector encode (some (members.set i new)))
          (.multi ((members.map txn).set i new.txn)))
      ∧ (∀ m ∈ members, ∀ path (new m' : Member), m.replace? path new = some m' → new.Fits →
        m'.Fits →
        (SubTxn.decoded m'.code m'.raw).at? path = some (SubTxn.decoded new.code new.raw)
          ∧ ∀ other, ¬ path <+: other → ¬ other <+: path →
            (SubTxn.decoded m'.code m'.raw).at? other = (SubTxn.decoded m.code m.raw).at? other)
      ∧ ∀ position bs, (∃ e next, TxnBody.read OpCode.multi.code ⟨position, bs⟩ = (.error e, next))
        ↔ BrokenFraming bs := by
  obtain ⟨hlength, hmembers⟩ := hfits members rfl
  refine ⟨reads_multi hfits, fun m hm => exists_body (hmembers m hm), ?_, ?_,
    TxnBody.read_multi_error_iff⟩
  · intro i new hnew
    have hset : Field.FitsVector Fits (some (members.set i new)) := by
      rintro _ ⟨⟩
      refine ⟨by rwa [List.length_set], fun m hm => ?_⟩
      obtain hold | rfl := List.mem_or_eq_of_mem_set hm
      · exact hmembers m hold
      · exact hnew
    have hread := reads_multi hset
    rwa [Option.getD_some, List.map_set] at hread
  · intro m hm path new m' hreplace hnew hm'
    rw [decoded_eq m' hm', decoded_eq new hnew, decoded_eq m (hmembers m hm)]
    exact at?_of_replace? hreplace

/-- A creation whose path is cut, a multi transaction of an error and an operation without a layout,
and a change of data without a body. -/
def assorted : List Member :=
  [.plain 1 (some [0xff]), .bundle [.plain (-1) (some [0, 0, 0, 5]), .plain 100 none],
    .plain 5 none]

/-- What there is to read in them. -/
theorem txn_assorted : assorted.map txn = [.mk 1 [0xff] (.unknown 1 [0xff]),
    .mk 14 [0, 0, 0, 2, 0xff, 0xff, 0xff, 0xff, 0, 0, 0, 4, 0, 0, 0, 5,
        0, 0, 0, 100, 0xff, 0xff, 0xff, 0xff]
      (.multi [.mk (-1) [0, 0, 0, 5] (.error 5), .mk 100 [] (.unknown 100 [])]),
    .mk 5 [] (.unknown 5 [])] := by
  have hcreate : TxnBody.read 1 = TxnBody.readCreate :=
    TxnBody.read_code (show OpCode.create ≠ .multi by decide)
  have herror : TxnBody.read (-1) = TxnBody.readError :=
    TxnBody.read_code (show OpCode.error ≠ .multi by decide)
  have hauth : TxnBody.read 100 = TxnBody.readUnknown 100 := TxnBody.read_unknown (by decide)
  have hsetData : TxnBody.read 5 = TxnBody.readSetData :=
    TxnBody.read_code (show OpCode.setData ≠ .multi by decide)
  simp only [assorted, List.map_cons, List.map_nil, txn, txns, SubTxn.decoded, hcreate, herror,
    hauth, hsetData]
  rfl

/-- Members that cannot be decoded keep their bytes between others that can, and one of them in the
place of another changes nothing else, also within a member. -/
theorem decoded_alone_assorted :
    Field.FitsVector Fits (some assorted)
      ∧ TxnBody.read OpCode.multi.code ⟨0, Field.vector encode (some assorted) ++ [7]⟩
        = (.ok (.multi [.mk 1 [0xff] (.unknown 1 [0xff]),
            .mk 14 [0, 0, 0, 2, 0xff, 0xff, 0xff, 0xff, 0, 0, 0, 4, 0, 0, 0, 5,
                0, 0, 0, 100, 0xff, 0xff, 0xff, 0xff]
              (.multi [.mk (-1) [0, 0, 0, 5] (.error 5), .mk 100 [] (.unknown 100 [])]),
            .mk 5 [] (.unknown 5 [])]), ⟨53, [7]⟩)
      ∧ (SubTxn.decoded 14 (bundle [.plain 1 (some [0xff]), .plain 100 none]).raw).at? [1]
        = (SubTxn.decoded 14
            (bundle [.plain (-1) (some [0, 0, 0, 5]), .plain 100 none]).raw).at? [1]
      ∧ ∃ e next, TxnBody.read OpCode.multi.code ⟨0, Field.int 3 ++ Field.int 5⟩
        = (.error e, next) := by
  have hfits : Field.FitsVector Fits (some assorted) := by
    simp +decide [assorted, Field.FitsVector, Fits, AllFit, Field.FitsBuffer]
  obtain ⟨hread, -, -, hreplace, herror⟩ := decoded_alone hfits
  refine ⟨hfits, ?_, ?_, ?_⟩
  · have hbytes := hread 0 [7]
    rw [txn_assorted] at hbytes
    exact hbytes
  · have hnew : (plain 1 (some [0xff])).Fits := by simp +decide [Fits, Field.FitsBuffer]
    have hm' : (bundle [.plain 1 (some [0xff]), .plain 100 none]).Fits := by
      simp +decide [Fits, AllFit, Field.FitsBuffer]
    have hsecond : bundle [.plain (-1) (some [0, 0, 0, 5]), .plain 100 none] ∈ assorted := by
      simp [assorted]
    exact (hreplace _ hsecond [0] _ _ rfl hnew hm').2 [1] (by decide) (by decide)
  · have hmember : BrokenMember (Field.int 5 ++ []) := .length (by decide) (by decide)
    have hframing : BrokenFraming
        (Field.int (3 : Nat) ++ (([] : List Member).flatMap encode ++ (Field.int 5 ++ []))) :=
      .member (by decide) (by simp) (by decide) hmember
    rw [List.flatMap_nil, List.nil_append, List.append_nil] at hframing
    exact (herror 0 _).mpr hframing

end Member

end TxnLog
