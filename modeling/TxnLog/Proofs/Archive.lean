import TxnLog.Archive
import TxnLog.Proofs.Attempt
import TxnLog.Proofs.BigEndian
import TxnLog.Proofs.Text.Utf8

/-!
# Archives are read back

`Field` is how a writer puts fields into an archive. A reader `Reads` bytes as a value if it gives
the value and stops behind the bytes, whatever follows them. Every field is read from what it is
written as, and attempts in a row read bytes in a row (`Reads.bind`), so that a record is read
field by field. Where a reader asks how much is left, what follows matters: such a reader
`ReadsLast` bytes, with nothing behind them.
-/

namespace TxnLog.Archive

/-! ### Fields as they are written -/

namespace Field

/-- A four-byte integer. -/
def int (n : Int) : Bytes := BigEndian.ofInt 4 n

/-- An eight-byte integer. -/
def long (n : Int) : Bytes := BigEndian.ofInt 8 n

/-- One byte, which is zero for false. -/
def bool (b : Bool) : Bytes := if b then [1] else [0]

/-- Bytes behind their number, which is -1 for null. -/
def buffer : Option Bytes → Bytes
  | none => int (-1)
  | some bs => int bs.length ++ bs

/-- A text as a buffer of UTF-8. -/
def string (s : Option String) : Bytes := buffer (s.map Text.Utf8.encode)

/-- Elements behind their number, which is -1 for null. -/
def vector {α : Type} (element : α → Bytes) : Option (List α) → Bytes
  | none => int (-1)
  | some as => int as.length ++ as.flatMap element

/-- The number of lengths that a buffer or a vector can have. -/
def lengths : Nat := 2 ^ 31

/-- The length of a buffer can be written. -/
def FitsBuffer (ob : Option Bytes) : Prop := ∀ bs ∈ ob, bs.length < lengths

/-- The length of a text can be written. -/
def FitsString (s : Option String) : Prop := FitsBuffer (s.map Text.Utf8.encode)

/-- The length of a vector can be written, and so can its elements. -/
def FitsVector {α : Type} (Fits : α → Prop) (oas : Option (List α)) : Prop :=
  ∀ as ∈ oas, as.length < lengths ∧ ∀ a ∈ as, Fits a

/-- An integer takes four bytes. -/
theorem length_int (n : Int) : (int n).length = 4 := BigEndian.length_ofInt 4 n

/-- A buffer takes four bytes more than it holds. -/
theorem length_buffer (ob : Option Bytes) : (buffer ob).length = 4 + (ob.getD []).length := by
  cases ob <;> simp [buffer, int]

/-- A vector takes four bytes more than its elements. -/
theorem length_vector {α : Type} (element : α → Bytes) (oas : Option (List α)) :
    (vector element oas).length = 4 + ((oas.getD []).flatMap element).length := by
  cases oas <;> simp [vector, int]

/-- A vector is never written as nothing. -/
theorem length_vector_ne {α : Type} (element : α → Bytes) (oas : Option (List α)) :
    (vector element oas).length ≠ 0 := by
  rw [length_vector]
  omega

end Field

/-! ### Readers that give what was written -/

variable {α β : Type}

/-- The reader gives `a` and stops behind the bytes `bs`, whatever follows. -/
def Reads (r : Reader α) (bs : Bytes) (a : α) : Prop :=
  ∀ position rest, r ⟨position, bs ++ rest⟩ = (.ok a, ⟨position + bs.length, rest⟩)

/-- The reader gives `a` and stops behind the bytes `bs` if nothing follows. -/
def ReadsLast (r : Reader α) (bs : Bytes) (a : α) : Prop :=
  ∀ position, r ⟨position, bs⟩ = (.ok a, ⟨position + bs.length, []⟩)

/-- What is read whatever follows is read also where nothing follows. -/
theorem Reads.last {r : Reader α} {bs : Bytes} {a : α} (h : Reads r bs a) : ReadsLast r bs a :=
  fun position => by simpa using h position []

/-- Nothing is read as any value. -/
theorem Reads.pure (a : α) : Reads (pure a) [] a := fun _ _ => rfl

/-- What is read is passed on. -/
theorem Reads.bind {r : Reader α} {f : α → Reader β} {bs cs : Bytes} {a : α} {b : β}
    (hr : Reads r bs a) (hf : Reads (f a) cs b) : Reads (r >>= f) (bs ++ cs) b := by
  intro position rest
  rw [Attempt.bind_apply, List.append_assoc, hr position (cs ++ rest)]
  dsimp only
  rw [hf, List.length_append, Nat.add_assoc]

/-- What is read is passed on to a reader that needs the end of the archive. -/
theorem Reads.bind_last {r : Reader α} {f : α → Reader β} {bs cs : Bytes} {a : α} {b : β}
    (hr : Reads r bs a) (hf : ReadsLast (f a) cs b) : ReadsLast (r >>= f) (bs ++ cs) b := by
  intro position
  rw [Attempt.bind_apply, hr position cs]
  dsimp only
  rw [hf, List.length_append, Nat.add_assoc]

/-- A reader that asks how much is left goes on with that. -/
theorem ReadsLast.remaining {f : Nat → Reader α} {bs : Bytes} {a : α}
    (hf : ReadsLast (f bs.length) bs a) : ReadsLast (remaining >>= f) bs a := hf

/-- What is read is given in another shape. -/
theorem Reads.map {r : Reader α} {bs : Bytes} {a : α} (f : α → β) (h : Reads r bs a) :
    Reads (do return f (← r)) bs (f a) := by
  rw [← List.append_nil bs]
  exact h.bind (Reads.pure (f a))

/-- What is read at the end of an archive is given in another shape. -/
theorem ReadsLast.map {r : Reader α} {bs : Bytes} {a : α} (f : α → β) (h : ReadsLast r bs a) :
    ReadsLast (do return f (← r)) bs (f a) := by
  intro position
  rw [Attempt.bind_apply, h position]
  rfl

/-- Bytes that are taken are read as they are. -/
theorem reads_take (tag : String) (bs : Bytes) : Reads (take tag bs.length) bs bs := by
  intro position rest
  simp [take, Cursor.advance]

/-- An integer is read from its field. -/
theorem reads_int (tag : String) {n : Int} (h : BigEndian.Fits 4 n) :
    Reads (int tag) (Field.int n) n := by
  have hread := (reads_take tag (BigEndian.ofInt 4 n)).map BigEndian.toInt
  rwa [BigEndian.length_ofInt, BigEndian.toInt_ofInt h] at hread

/-- A long integer is read from its field. -/
theorem reads_long (tag : String) {n : Int} (h : BigEndian.Fits 8 n) :
    Reads (long tag) (Field.long n) n := by
  have hread := (reads_take tag (BigEndian.ofInt 8 n)).map BigEndian.toInt
  rwa [BigEndian.length_ofInt, BigEndian.toInt_ofInt h] at hread

/-- A truth value is read from its field. -/
theorem reads_bool (tag : String) (b : Bool) : Reads (bool tag) (Field.bool b) b := by
  cases b with
  | false => exact (reads_take tag [0]).map fun bs => BigEndian.toNat bs != 0
  | true => exact (reads_take tag [1]).map fun bs => BigEndian.toNat bs != 0

/-- The length of a buffer or vector is read from its field. -/
theorem reads_length (tag : String) {n : Nat} (h : n < Field.lengths) :
    Reads (int tag) (Field.int n) n := by
  -- The field is signed, and lengths have the half of its values that is not negative.
  have hcapacity : BigEndian.capacity 4 = 2 * Field.lengths := rfl
  exact reads_int tag ⟨by omega, by omega⟩

/-- A buffer is read from its field. -/
theorem reads_buffer (tag : String) {ob : Option Bytes} (h : Field.FitsBuffer ob) :
    Reads (buffer tag) (Field.buffer ob) ob := by
  cases ob with
  | none => exact (reads_int tag (by decide)).bind (Reads.pure none)
  | some bs =>
    refine (reads_length tag (h bs rfl)).bind ?_
    rw [if_neg (by omega), if_neg (by omega), Int.toNat_natCast]
    exact (reads_take tag bs).map some

/-- A text is read from its field. -/
theorem reads_string (tag : String) {s : Option String} (h : Field.FitsString s) :
    Reads (string tag) (Field.string s) s := by
  rw [← List.append_nil (Field.string s)]
  refine (reads_buffer tag h).bind ?_
  cases s with
  | none => exact Reads.pure none
  | some s =>
    simp only [Option.map_some, Text.Utf8.decode_encode]
    exact Reads.pure (some s)

/-- Elements are read one after the other, behind those that were read before. -/
theorem reads_elements {element : Reader β} {encode : α → Bytes} {value : α → β} {as : List α}
    (h : ∀ a ∈ as, Reads element (encode a) (value a)) (done : List β) :
    Reads (elements element as.length done) (as.flatMap encode)
      (done.reverse ++ as.map value) := by
  induction as generalizing done with
  | nil =>
    rw [List.map_nil, List.append_nil]
    exact fun _ _ => rfl
  | cons a as ih =>
    intro position rest
    have hnext := ih (fun a' ha' => h a' (List.mem_cons_of_mem a ha')) (value a :: done)
    rw [List.flatMap_cons, List.append_assoc, List.length_cons, elements]
    rw [h a List.mem_cons_self position (as.flatMap encode ++ rest)]
    dsimp only
    rw [hnext, List.length_append, Nat.add_assoc, List.reverse_cons, List.append_assoc]
    rfl

/-- A vector is read from its field, null as no elements. -/
theorem reads_vector (tag : String) {element : Reader β} {encode : α → Bytes} {value : α → β}
    {Fits : α → Prop} {oas : Option (List α)} (hfits : Field.FitsVector Fits oas)
    (h : ∀ a, Fits a → Reads element (encode a) (value a)) :
    Reads (vector tag element) (Field.vector encode oas) ((oas.getD []).map value) := by
  cases oas with
  | none => exact (reads_int tag (by decide)).bind (Reads.pure [])
  | some as =>
    obtain ⟨hlength, helements⟩ := hfits as rfl
    refine (reads_length tag hlength).bind ?_
    rw [if_neg (by omega), if_neg (by omega), Int.toNat_natCast]
    exact reads_elements (fun a ha => h a (helements a ha)) []

/-- A vector is read from its field as the elements that were written, null as none. -/
theorem reads_list (tag : String) {element : Reader α} {encode : α → Bytes} {Fits : α → Prop}
    {oas : Option (List α)} (hfits : Field.FitsVector Fits oas)
    (h : ∀ a, Fits a → Reads element (encode a) a) :
    Reads (vector tag element) (Field.vector encode oas) (oas.getD []) := by
  have hread : Reads (vector tag element) (Field.vector encode oas) ((oas.getD []).map id) :=
    reads_vector tag hfits h
  rwa [List.map_id] at hread

end TxnLog.Archive
