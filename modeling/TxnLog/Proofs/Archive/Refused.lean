import TxnLog.Proofs.Archive.Delimited

/-!
# What is refused

A reader `Refuses` bytes if it gives nothing where they are all that is left. Attempts in a row
refuse what the first one refuses, and what a later one refuses behind bytes that are read. So a
field is refused where it is cut or where its number is below that of null, and a vector where one
of its elements is (`refuses_vector`), or where its count is larger than what is left allows
(`refuses_vector_of_lt`).
-/

namespace TxnLog.Archive

variable {α β : Type}

/-- The reader gives nothing where these bytes are left. -/
def Refuses (r : Reader α) (bs : Bytes) : Prop :=
  ∀ position, ∃ e next, r ⟨position, bs⟩ = (.error e, next)

/-- What is refused is not read. -/
theorem Refuses.ne_ok {r : Reader α} {bs : Bytes} (h : Refuses r bs) {position : Nat} {a : α}
    {next : Cursor} : r ⟨position, bs⟩ ≠ (.ok a, next) := by
  obtain ⟨e, stop, herror⟩ := h position
  rw [herror]
  rintro ⟨⟩

/-- What is not read is refused. -/
theorem refuses_of_ne_ok {r : Reader α} {bs : Bytes}
    (h : ∀ position a next, r ⟨position, bs⟩ ≠ (.ok a, next)) : Refuses r bs := by
  intro position
  cases hread : r ⟨position, bs⟩ with
  | mk result next =>
  cases result with
  | ok a => exact absurd hread (h position a next)
  | error e => exact ⟨e, next, rfl⟩

/-- What the first attempt refuses is refused. -/
theorem Refuses.bind {r : Reader α} {bs : Bytes} (h : Refuses r bs) (f : α → Reader β) :
    Refuses (r >>= f) bs := by
  intro position
  obtain ⟨e, next, herror⟩ := h position
  exact ⟨e, next, by rw [Attempt.bind_apply, herror]⟩

/-- What is refused behind bytes that are read is refused. -/
theorem Reads.refuses_bind {r : Reader α} {f : α → Reader β} {bs rest : Bytes} {a : α}
    (hr : Reads r bs a) (hf : Refuses (f a) rest) : Refuses (r >>= f) (bs ++ rest) := by
  intro position
  obtain ⟨e, next, herror⟩ := hf (position + bs.length)
  exact ⟨e, next, by rw [Attempt.bind_apply, hr position rest, ← herror]⟩

/-! ### Fields -/

/-- Fewer bytes than are asked for are not taken. -/
theorem refuses_take (tag : String) {n : Nat} {bs : Bytes} (h : bs.length < n) :
    Refuses (take tag n) bs := by
  intro position
  have hshort : (bs.take n).length < n := by
    rw [List.length_take]
    omega
  exact ⟨_, _, by rw [take, if_pos hshort]⟩

/-- An integer is not read from fewer than four bytes. -/
theorem refuses_int (tag : String) {bs : Bytes} (h : bs.length < 4) : Refuses (int tag) bs :=
  (refuses_take tag h).bind _

/-- No number below that of null tells how much there is to read. -/
theorem refuses_negative (tag : String) {n : Int} (hfits : BigEndian.Fits 4 n) (h : n < -1)
    (null : Reader α) (e : Int → DecodeError) (r : Nat → Reader α) (rest : Bytes) :
    Refuses (int tag >>= fun n =>
      if n = -1 then null else if n < 0 then Attempt.fail (e n) else r n.toNat)
      (Field.int n ++ rest) := by
  refine (reads_int tag hfits).refuses_bind ?_
  rw [if_neg (by omega), if_pos (by omega)]
  exact fun position => ⟨e n, _, rfl⟩

/-- Behind the number that tells how much there is to read, that much must be there. -/
theorem refuses_counted (tag : String) {n : Nat} (hn : n < Field.lengths) (null : Reader α)
    (e : Int → DecodeError) (r : Nat → Reader α) {rest : Bytes} (h : Refuses (r n) rest) :
    Refuses (int tag >>= fun n =>
      if n = -1 then null else if n < 0 then Attempt.fail (e n) else r n.toNat)
      (Field.int n ++ rest) := by
  refine (reads_length tag hn).refuses_bind ?_
  rw [if_neg (by omega), if_neg (by omega), Int.toNat_natCast]
  exact h

/-- A buffer is not read if its length is cut. -/
theorem refuses_bytes_of_lt (tag : String) {bs : Bytes} (h : bs.length < 4) :
    Refuses (bytes tag) bs :=
  ((refuses_int tag h).bind _).bind _

/-- A buffer is not read if its length is below that of null. -/
theorem refuses_bytes_negative (tag : String) {n : Int} (hfits : BigEndian.Fits 4 n) (h : n < -1)
    (rest : Bytes) : Refuses (bytes tag) (Field.int n ++ rest) :=
  (refuses_negative tag hfits h (pure none) (fun n => .bufferLength n tag)
    (fun n => do return some (← take tag n)) rest).bind _

/-- A buffer is not read if it is cut. -/
theorem refuses_bytes_cut (tag : String) {n : Nat} (hn : n < Field.lengths) {rest : Bytes}
    (h : rest.length < n) : Refuses (bytes tag) (Field.int n ++ rest) :=
  (refuses_counted tag hn (pure none) (fun n => .bufferLength n tag)
    (fun n => do return some (← take tag n)) ((refuses_take tag h).bind _)).bind _

/-! ### Vectors -/

/-- Elements are not read if one of them is refused. -/
theorem refuses_elements {element : Reader β} {encode : α → Bytes} {value : α → β} {as : List α}
    (h : ∀ a ∈ as, Reads element (encode a) (value a)) {count : Nat} (hcount : as.length < count)
    {rest : Bytes} (hrest : Refuses element rest) (done : List β) :
    Refuses (elements element count done) (as.flatMap encode ++ rest) := by
  induction as generalizing count done with
  | nil =>
    obtain ⟨count, rfl⟩ := Nat.exists_eq_succ_of_ne_zero (Nat.ne_zero_of_lt hcount)
    intro position
    obtain ⟨e, next, herror⟩ := hrest position
    exact ⟨e, next, by rw [List.flatMap_nil, List.nil_append, elements, herror]⟩
  | cons a as ih =>
    obtain ⟨count, rfl⟩ := Nat.exists_eq_succ_of_ne_zero (Nat.ne_zero_of_lt hcount)
    intro position
    obtain ⟨ha, has⟩ := List.forall_mem_cons.mp h
    have hlater := ih has (Nat.lt_of_succ_lt_succ hcount) (value a :: done)
    obtain ⟨e, next, herror⟩ := hlater (position + (encode a).length)
    refine ⟨e, next, ?_⟩
    rw [List.flatMap_cons, List.append_assoc, elements, ha position]
    exact herror

/-- A vector is not read if its count is cut. -/
theorem refuses_vector_of_short (tag : String) (element : Reader α) {bs : Bytes}
    (h : bs.length < 4) : Refuses (vector tag element) bs :=
  (refuses_int tag h).bind _

/-- A vector is not read if its count is below that of null. -/
theorem refuses_vector_negative (tag : String) (element : Reader α) {n : Int}
    (hfits : BigEndian.Fits 4 n) (h : n < -1) (rest : Bytes) :
    Refuses (vector tag element) (Field.int n ++ rest) :=
  refuses_negative tag hfits h (pure []) (fun n => .vectorLength n tag)
    (fun n => elements element n []) rest

/-- A vector is not read if one of its elements is refused. -/
theorem refuses_vector (tag : String) {element : Reader β} {encode : α → Bytes} {value : α → β}
    {as : List α} (h : ∀ a ∈ as, Reads element (encode a) (value a)) {count : Nat}
    (hfits : count < Field.lengths) (hcount : as.length < count) {rest : Bytes}
    (hrest : Refuses element rest) :
    Refuses (vector tag element) (Field.int count ++ (as.flatMap encode ++ rest)) :=
  refuses_counted tag hfits (pure []) (fun n => .vectorLength n tag)
    (fun n => elements element n []) (refuses_elements h hcount hrest [])

/-- Elements take at least as much as their number tells, if each of them takes so much. -/
theorem mul_length_le_length_flatMap {encode : α → Bytes} {least : Nat} {as : List α}
    (h : ∀ a ∈ as, least ≤ (encode a).length) : least * as.length ≤ (as.flatMap encode).length := by
  induction as with
  | nil => rfl
  | cons a as ih =>
    obtain ⟨ha, has⟩ := List.forall_mem_cons.mp h
    have hrest := ih has
    rw [List.length_cons, List.flatMap_cons, List.length_append, Nat.mul_succ]
    omega

/-- A vector is not read if fewer bytes are left than its elements take at least. -/
theorem refuses_vector_of_lt (tag : String) {element : Reader α} {least : Nat}
    (helement : ReadsOnly element fun _ used => least ≤ used.length) {count : Nat}
    (hfits : count < Field.lengths) {rest : Bytes} (h : rest.length < least * count) :
    Refuses (vector tag element) (Field.int count ++ rest) := by
  refine refuses_counted tag hfits (pure []) (fun n => .vectorLength n tag)
    (fun n => elements element n []) (refuses_of_ne_ok ?_)
  intro position as next hread
  obtain ⟨_, behind, rfl, -, parts, hparts, rfl, -, rfl⟩ :=
    readsOnly_elements helement count [] _ _ _ _ hread
  have htaken : least * parts.length ≤ (parts.flatMap Prod.snd).length :=
    mul_length_le_length_flatMap hparts
  rw [List.length_append] at h
  omega

end TxnLog.Archive
