import TxnLog.Proofs.Archive
import TxnLog.Txn.Decode

/-!
# Nothing but fields is read

`Reads` says that what is written is read; here is the converse. A reader `ReadsOnly` what is
`Written` if all that it gives stands at the cursor in such a form, and it is `Delimited` if what it
gives is read from bytes of its own, whatever follows them. Both pass from attempts to attempts in a
row (`ReadsOnly.bind`, `Delimited.bind`). The fields are read only from what they are written as,
and so all of them are delimited.

A delimited reader refuses what it reads with its end cut off (`Delimited.error_of_take`): it would
otherwise give a value before the end of the bytes, and then it would do so with the end in place,
too.
-/

namespace TxnLog.Archive

variable {α β : Type}

/-- What the reader gives stands at the cursor in a written form, and the reader stops behind it. -/
def ReadsOnly (r : Reader α) (Written : α → Bytes → Prop) : Prop :=
  ∀ position bs a next, r ⟨position, bs⟩ = (.ok a, next) →
    ∃ used rest, bs = used ++ rest ∧ next = ⟨position + used.length, rest⟩ ∧ Written a used

/-- What the reader gives it reads from bytes of its own. -/
def Delimited (r : Reader α) : Prop := ReadsOnly r fun a used => Reads r used a

/-! ### Attempts in a row -/

/-- What is written in one form is written in a more general one. -/
theorem ReadsOnly.mono {r : Reader α} {Written Written' : α → Bytes → Prop}
    (hr : ReadsOnly r Written) (h : ∀ a used, Written a used → Written' a used) :
    ReadsOnly r Written' := by
  intro position bs a next hread
  obtain ⟨used, rest, hbs, hnext, hused⟩ := hr _ _ _ _ hread
  exact ⟨used, rest, hbs, hnext, h a used hused⟩

/-- A value is given without reading anything. -/
theorem ReadsOnly.pure (a : α) : ReadsOnly (pure a) fun b used => b = a ∧ used = [] := by
  intro position bs b next hread
  cases hread
  exact ⟨[], bs, rfl, rfl, rfl, rfl⟩

/-- A reader that fails gives nothing. -/
theorem ReadsOnly.fail (e : DecodeError) (Written : α → Bytes → Prop) :
    ReadsOnly (Attempt.fail e) Written := by
  intro position bs a next hread
  cases hread

/-- Attempts in a row read forms in a row. -/
theorem ReadsOnly.bind {r : Reader α} {f : α → Reader β} {First : α → Bytes → Prop}
    {Second : α → β → Bytes → Prop} (hr : ReadsOnly r First)
    (hf : ∀ a, ReadsOnly (f a) (Second a)) :
    ReadsOnly (r >>= f) fun b used =>
      ∃ a first second, First a first ∧ Second a b second ∧ used = first ++ second := by
  intro position bs b next hread
  obtain ⟨a, mid, hfirst, hsecond⟩ := Attempt.bind_eq_ok_iff.mp hread
  obtain ⟨first, behind, rfl, rfl, hwritten⟩ := hr _ _ _ _ hfirst
  obtain ⟨second, rest, rfl, rfl, hwritten'⟩ := hf a _ _ _ _ hsecond
  exact ⟨first ++ second, rest, (List.append_assoc ..).symm,
    by rw [List.length_append, Nat.add_assoc], a, first, second, hwritten, hwritten', rfl⟩

/-- What is given in another shape is read from the same form. -/
theorem ReadsOnly.map {r : Reader α} {Written : α → Bytes → Prop} (f : α → β)
    (hr : ReadsOnly r Written) :
    ReadsOnly (do return f (← r)) fun b used => ∃ a, Written a used ∧ b = f a := by
  refine (hr.bind fun a => ReadsOnly.pure (f a)).mono ?_
  rintro _ _ ⟨a, first, _, hwritten, ⟨rfl, rfl⟩, rfl⟩
  exact ⟨a, by rwa [List.append_nil], rfl⟩

/-- A reader that reads only forms and reads every form is delimited. -/
theorem ReadsOnly.delimited {r : Reader α} {Written : α → Bytes → Prop} (hr : ReadsOnly r Written)
    (h : ∀ a used, Written a used → Reads r used a) : Delimited r := hr.mono h

/-- A reader that reads values only from what they are written as, and from there whatever follows,
is delimited. -/
theorem ReadsOnly.delimited_encode {r : Reader α} {Fits : α → Prop} {encode : α → Bytes}
    (hr : ReadsOnly r fun a used => Fits a ∧ used = encode a)
    (h : ∀ a, Fits a → Reads r (encode a) a) : Delimited r := by
  refine hr.delimited ?_
  rintro a _ ⟨hfits, rfl⟩
  exact h a hfits

/-- A value is given without reading anything, whatever follows. -/
theorem Delimited.pure (a : α) : Delimited (pure a : Reader α) := by
  refine (ReadsOnly.pure a).delimited ?_
  rintro _ _ ⟨rfl, rfl⟩
  exact Reads.pure _

/-- Attempts in a row read bytes in a row. -/
theorem Delimited.bind {r : Reader α} {f : α → Reader β} (hr : Delimited r)
    (hf : ∀ a, Delimited (f a)) : Delimited (r >>= f) := by
  refine (ReadsOnly.bind hr hf).delimited ?_
  rintro b _ ⟨a, first, second, hfirst, hsecond, rfl⟩
  exact hfirst.bind hsecond

/-- What is read is given in another shape. -/
theorem Delimited.map {r : Reader α} (f : α → β) (hr : Delimited r) :
    Delimited (do return f (← r)) := hr.bind fun a => Delimited.pure (f a)

/-! ### Cuts -/

/-- A delimited reader refuses the first bytes of what it reads. -/
theorem Delimited.error_of_take {r : Reader α} (hr : Delimited r) {bs : Bytes} {a : α}
    (hreads : Reads r bs a) {m : Nat} (hm : m < bs.length) (position : Nat) :
    ∃ e next, r ⟨position, bs.take m⟩ = (.error e, next) := by
  cases hrun : r ⟨position, bs.take m⟩ with
  | mk result next =>
  cases result with
  | error e => exact ⟨e, next, rfl⟩
  | ok b =>
    exfalso
    obtain ⟨used, rest, htake, -, hused⟩ := hr _ _ _ _ hrun
    -- With the end in place, the reader would stop where it has stopped without it.
    have hbs : bs = used ++ (rest ++ bs.drop m) := by
      rw [← List.append_assoc, ← htake, List.take_append_drop]
    have hearly := hused position (rest ++ bs.drop m)
    have hend := hreads position []
    rw [List.append_nil] at hend
    rw [← hbs, hend, Prod.mk.injEq, Cursor.mk.injEq] at hearly
    have hlength := congrArg List.length htake
    rw [List.length_take, List.length_append] at hlength
    omega

/-! ### Fields -/

/-- Bytes are taken from where they stand. -/
theorem readsOnly_take (tag : String) (n : Nat) :
    ReadsOnly (take tag n) fun bs used => used = bs ∧ bs.length = n := by
  intro position bs got next hread
  have hlength := (length_of_take hread).1
  simp only [take] at hread
  split at hread
  · cases hread
  · cases hread
    refine ⟨bs.take n, bs.drop n, (List.take_append_drop n bs).symm, ?_, rfl, hlength⟩
    rw [hlength]
    rfl

/-- An integer is read only from its field. -/
theorem readsOnly_int (tag : String) :
    ReadsOnly (int tag) fun n used => BigEndian.Fits 4 n ∧ used = Field.int n := by
  refine ((readsOnly_take tag 4).map BigEndian.toInt).mono ?_
  rintro _ _ ⟨bs, ⟨rfl, hlength⟩, rfl⟩
  exact ⟨BigEndian.fits_toInt hlength, (BigEndian.ofInt_toInt hlength).symm⟩

/-- Four bytes are always the field of an integer. -/
theorem exists_int_append {bs : Bytes} (h : 4 ≤ bs.length) :
    ∃ v rest, BigEndian.Fits 4 v ∧ bs = Field.int v ++ rest := by
  have hlength : (bs.take 4).length = 4 := List.length_take_of_le h
  refine ⟨BigEndian.toInt (bs.take 4), bs.drop 4, BigEndian.fits_toInt hlength, ?_⟩
  rw [Field.int, BigEndian.ofInt_toInt hlength, List.take_append_drop]

/-- A long integer is read only from its field. -/
theorem readsOnly_long (tag : String) :
    ReadsOnly (long tag) fun n used => BigEndian.Fits 8 n ∧ used = Field.long n := by
  refine ((readsOnly_take tag 8).map BigEndian.toInt).mono ?_
  rintro _ _ ⟨bs, ⟨rfl, hlength⟩, rfl⟩
  exact ⟨BigEndian.fits_toInt hlength, (BigEndian.ofInt_toInt hlength).symm⟩

/-- A truth value is read only from a byte, which is zero for false. -/
theorem readsOnly_bool (tag : String) :
    ReadsOnly (bool tag) fun b used => ∃ flag : UInt8, used = [flag] ∧ b = (flag.toNat != 0) := by
  refine ((readsOnly_take tag 1).map fun bs => BigEndian.toNat bs != 0).mono ?_
  rintro _ _ ⟨bs, ⟨rfl, hlength⟩, rfl⟩
  obtain ⟨flag, rfl⟩ := List.length_eq_one_iff.mp hlength
  exact ⟨flag, rfl, by simp [BigEndian.toNat]⟩

/-- A truth value is read from any byte. -/
theorem reads_flag (tag : String) (flag : UInt8) : Reads (bool tag) [flag] (flag.toNat != 0) := by
  have hread := (reads_take tag [flag]).map fun bs => BigEndian.toNat bs != 0
  have hnat : BigEndian.toNat [flag] = flag.toNat := by simp [BigEndian.toNat]
  rwa [hnat] at hread

/-- Behind a number, what is read is null, or as much as the number tells. -/
theorem readsOnly_counted {n : Int} {null : α} {e : DecodeError} {r : Nat → Reader α}
    {Written : Nat → α → Bytes → Prop} (hr : ∀ count, ReadsOnly (r count) (Written count)) :
    ReadsOnly (if n = -1 then pure null else if n < 0 then Attempt.fail e else r n.toNat)
      fun a used => (n = -1 ∧ a = null ∧ used = [])
        ∨ ∃ count : Nat, n = count ∧ Written count a used := by
  by_cases hnull : n = -1
  · rw [if_pos hnull]
    exact (ReadsOnly.pure null).mono fun _ _ h => .inl ⟨hnull, h⟩
  rw [if_neg hnull]
  by_cases hneg : n < 0
  · rw [if_pos hneg]
    exact ReadsOnly.fail e _
  rw [if_neg hneg]
  have hcount : n = (n.toNat : Int) := (Int.toNat_of_nonneg (Int.not_lt.mp hneg)).symm
  exact (hr n.toNat).mono fun _ _ h => .inr ⟨_, hcount, h⟩

/-- A number of bytes or elements that fits its field is a length. -/
theorem lt_lengths_of_fits {count : Nat} (h : BigEndian.Fits 4 count) : count < Field.lengths := by
  have hcapacity : BigEndian.capacity 4 = 2 * Field.lengths := rfl
  have hlt := h.2
  omega

/-- A buffer is read only from its field. -/
theorem readsOnly_buffer (tag : String) :
    ReadsOnly (buffer tag) fun ob used => Field.FitsBuffer ob ∧ used = Field.buffer ob := by
  refine ((readsOnly_int tag).bind fun n =>
    readsOnly_counted fun count => (readsOnly_take tag count).map some).mono ?_
  rintro _ _ ⟨_, _, _, ⟨hn, rfl⟩, ⟨rfl, rfl, rfl⟩ | ⟨_, rfl, bs, ⟨rfl, rfl⟩, rfl⟩, rfl⟩
  · exact ⟨by rintro _ ⟨⟩, List.append_nil _⟩
  · refine ⟨?_, rfl⟩
    rintro _ ⟨⟩
    exact lt_lengths_of_fits hn

/-- A buffer is read only from its field, and null as empty. -/
theorem readsOnly_bytes (tag : String) :
    ReadsOnly (bytes tag) fun bs used =>
      ∃ ob, Field.FitsBuffer ob ∧ used = Field.buffer ob ∧ bs = ob.getD [] := by
  refine ((readsOnly_buffer tag).map _).mono ?_
  rintro _ _ ⟨ob, ⟨hfits, rfl⟩, rfl⟩
  exact ⟨ob, hfits, rfl, rfl⟩

/-- A text is read only from its field. -/
theorem readsOnly_string (tag : String) :
    ReadsOnly (string tag) fun s used => Field.FitsString s ∧ used = Field.string s := by
  -- Behind its buffer, a text reads no more.
  have hparts : ReadsOnly (string tag) fun s used => ∃ ob first second,
      (Field.FitsBuffer ob ∧ first = Field.buffer ob)
        ∧ (s.map Text.Utf8.encode = ob ∧ second = []) ∧ used = first ++ second := by
    refine (readsOnly_buffer tag).bind fun ob => ?_
    cases ob with
    | none =>
      refine (ReadsOnly.pure none).mono ?_
      rintro _ _ ⟨rfl, rfl⟩
      exact ⟨rfl, rfl⟩
    | some raw =>
      dsimp only
      split
      · next s hdecode =>
        refine (ReadsOnly.pure (some s)).mono ?_
        rintro _ _ ⟨rfl, rfl⟩
        exact ⟨congrArg some (Text.Utf8.encode_of_decode hdecode), rfl⟩
      · exact ReadsOnly.fail _ _
  refine hparts.mono ?_
  rintro s _ ⟨_, _, _, ⟨hfits, rfl⟩, ⟨rfl, rfl⟩, rfl⟩
  exact ⟨hfits, List.append_nil _⟩

/-! ### Vectors -/

/-- Elements are read only one after the other, behind those that were read before. -/
theorem readsOnly_elements {element : Reader α} {Written : α → Bytes → Prop}
    (helement : ReadsOnly element Written) (count : Nat) (done : List α) :
    ReadsOnly (elements element count done) fun as used =>
      ∃ parts : List (α × Bytes), (∀ part ∈ parts, Written part.1 part.2) ∧ parts.length = count
        ∧ as = done.reverse ++ parts.map Prod.fst ∧ used = parts.flatMap Prod.snd := by
  induction count generalizing done with
  | zero =>
    intro position bs as next hread
    cases hread
    exact ⟨[], bs, rfl, rfl, [], by simp, rfl, by simp, rfl⟩
  | succ count ih =>
    intro position bs as next hread
    rw [elements] at hread
    split at hread
    · next a mid hfirst =>
      obtain ⟨first, behind, rfl, rfl, hwritten⟩ := helement _ _ _ _ hfirst
      obtain ⟨others, rest, rfl, rfl, parts, hparts, rfl, rfl, rfl⟩ := ih (a :: done) _ _ _ _ hread
      refine ⟨first ++ parts.flatMap Prod.snd, rest, (List.append_assoc ..).symm,
        by rw [List.length_append, Nat.add_assoc], (a, first) :: parts, ?_, rfl, by simp, rfl⟩
      rw [List.forall_mem_cons]
      exact ⟨hwritten, hparts⟩
    · cases hread

/-- A vector is read only from a count and as many elements, each in its own form. -/
theorem readsOnly_vector (tag : String) {element : Reader α} {Written : α → Bytes → Prop}
    (helement : ReadsOnly element Written) :
    ReadsOnly (vector tag element) fun as used => ∃ parts : Option (List (α × Bytes)),
      Field.FitsVector (fun part => Written part.1 part.2) parts
        ∧ used = Field.vector Prod.snd parts ∧ as = (parts.getD []).map Prod.fst := by
  refine ((readsOnly_int tag).bind fun n =>
    readsOnly_counted fun count => readsOnly_elements helement count []).mono ?_
  rintro _ _ ⟨_, _, _, ⟨hn, rfl⟩, ⟨rfl, rfl, rfl⟩ | ⟨_, rfl, parts, hparts, rfl, rfl, rfl⟩, rfl⟩
  · exact ⟨none, by rintro _ ⟨⟩, List.append_nil _, rfl⟩
  · refine ⟨some parts, ?_, rfl, rfl⟩
    rintro _ ⟨⟩
    exact ⟨lt_lengths_of_fits hn, hparts⟩

/-- A vector is read only from its field, null as no elements, if each element is. -/
theorem readsOnly_list (tag : String) {element : Reader α} {Fits : α → Prop} {encode : α → Bytes}
    (helement : ReadsOnly element fun a used => Fits a ∧ used = encode a) :
    ReadsOnly (vector tag element) fun as used => ∃ oas : Option (List α),
      Field.FitsVector Fits oas ∧ used = Field.vector encode oas ∧ as = oas.getD [] := by
  refine (readsOnly_vector tag helement).mono ?_
  rintro _ _ ⟨parts, hfits, rfl, rfl⟩
  cases parts with
  | none => exact ⟨none, by rintro _ ⟨⟩, rfl, rfl⟩
  | some parts =>
    obtain ⟨hlength, hparts⟩ := hfits parts rfl
    refine ⟨some (parts.map Prod.fst), ?_, ?_, rfl⟩
    · rintro _ ⟨⟩
      refine ⟨by rwa [List.length_map], ?_⟩
      rw [List.forall_mem_map]
      exact fun part hpart => (hparts part hpart).1
    · rw [Field.vector, Field.vector, List.length_map, List.flatMap_map]
      congr 1
      rw [List.flatMap_def, List.flatMap_def]
      exact congrArg List.flatten (List.map_congr_left fun part hpart => (hparts part hpart).2)

/-! ### Fields are delimited -/

/-- An integer is read from its own bytes. -/
theorem delimited_int (tag : String) : Delimited (int tag) :=
  (readsOnly_int tag).delimited_encode fun _ => reads_int tag

/-- A buffer is read from its own bytes. -/
theorem delimited_bytes (tag : String) : Delimited (bytes tag) :=
  Delimited.map _ ((readsOnly_buffer tag).delimited_encode fun _ => reads_buffer tag)

/-- A text is read from its own bytes. -/
theorem delimited_string (tag : String) : Delimited (string tag) :=
  (readsOnly_string tag).delimited_encode fun _ => reads_string tag

/-- A vector is read from its own bytes if each of its elements is. -/
theorem Delimited.vector (tag : String) {element : Reader α} (helement : Delimited element) :
    Delimited (vector tag element) := by
  refine (readsOnly_vector tag helement).delimited ?_
  rintro _ _ ⟨parts, hfits, rfl, rfl⟩
  exact reads_vector tag hfits fun _ h => h

end TxnLog.Archive
