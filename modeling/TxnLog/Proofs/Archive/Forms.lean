import TxnLog.Archive.Item
import TxnLog.Proofs.Cursor
import TxnLog.Proofs.Txn.Layout

/-!
# What a read takes

A request to an archive has `Written` forms, which say what bytes stand for which item: numbers are
big-endian, texts are UTF-8 behind their length, and so on for vectors of vectors. A request is
`Broken` where none of its forms stands, and then what it has taken is said here as well: nothing,
the number that tells how much there is to read, a text that is none, or the elements before the one
that is broken.

`Request.readsExactly` says that a read gives an item if and only if a form of it stands at the
cursor, and `Request.failsOnly` that it fails only where the request is broken. The proofs follow
the readers: what is known of two readers is known of them in a row (`FailsOnly.bind`), of a reader
behind a number (`ReadsExactly.counted`, `failsOnly_counted`) and of one that is repeated
(`ReadsExactly.elements`, `failsOnly_elements`).
-/

namespace TxnLog.Archive

variable {α β : Type} {c mid next : Cursor} {used first second : Bytes}

/-! ### Bytes that are taken -/

/-- The cursor is moved behind the bytes `used`. -/
structure Takes (c : Cursor) (used : Bytes) (next : Cursor) : Prop where
  /-- They are the next ones. -/
  rest_eq : c.rest = used ++ next.rest
  /-- The position counts them. -/
  position_eq : next.position = c.position + used.length

/-- No bytes are taken where the cursor is left. -/
theorem Takes.nil (c : Cursor) : Takes c [] c := ⟨rfl, rfl⟩

/-- Where no bytes are taken the cursor is left. -/
theorem Takes.eq_of_nil (h : Takes c [] next) : next = c := Cursor.ext h.position_eq h.rest_eq.symm

/-- Bytes are taken one after the other. -/
theorem Takes.append (hfirst : Takes c first mid) (hsecond : Takes mid second next) :
    Takes c (first ++ second) next where
  rest_eq := by rw [hfirst.rest_eq, hsecond.rest_eq, List.append_assoc]
  position_eq := by
    rw [hsecond.position_eq, hfirst.position_eq, List.length_append, Nat.add_assoc]

/-- Between two parts of what is taken there is a cursor. -/
theorem Takes.of_append (h : Takes c (first ++ second) next) :
    ∃ mid, Takes c first mid ∧ Takes mid second next := by
  have hrest := h.rest_eq
  have hposition := h.position_eq
  rw [List.append_assoc] at hrest
  rw [List.length_append, ← Nat.add_assoc] at hposition
  exact ⟨⟨c.position + first.length, second ++ next.rest⟩, ⟨hrest, rfl⟩, ⟨rfl, hposition⟩⟩

/-- What is taken is there before, and not afterwards. -/
theorem Takes.length_rest (h : Takes c used next) :
    c.rest.length = used.length + next.rest.length := by
  rw [h.rest_eq, List.length_append]

/-- A reader that reads only forms takes them. -/
theorem ReadsOnly.takes {r : Reader α} {Written : α → Bytes → Prop} (hr : ReadsOnly r Written)
    {a : α} (hread : r c = (.ok a, next)) : ∃ used, Takes c used next ∧ Written a used := by
  obtain ⟨used, rest, hrest, rfl, hused⟩ := hr c.position c.rest a next hread
  exact ⟨used, ⟨hrest, rfl⟩, hused⟩

/-- A reader that reads bytes whatever follows takes them. -/
theorem Reads.of_takes {r : Reader α} {a : α} (hr : Reads r used a) (h : Takes c used next) :
    r c = (.ok a, next) := by
  have hc : c = ⟨c.position, used ++ next.rest⟩ := Cursor.ext rfl h.rest_eq
  have hnext : next = ⟨c.position + used.length, next.rest⟩ := Cursor.ext h.position_eq rfl
  rw [hc, hr c.position next.rest, ← hnext]

/-! ### Forms -/

/-- Which bytes stand for a value, given the number of bytes that are left behind them. -/
abbrev Form (α : Type) : Type := α → Bytes → Nat → Prop

/-- The reader gives a value if and only if a form of it stands at the cursor, and it stops behind
that. -/
def ReadsExactly (r : Reader α) (F : Form α) : Prop :=
  ∀ c a next, r c = (.ok a, next) ↔ ∃ used, Takes c used next ∧ F a used next.rest.length

/-- Each value has a form behind that of the one before it. -/
inductive InARow (F : Form α) : Form (List α)
  | nil {left : Nat} : InARow F [] [] left
  | cons {a : α} {as : List α} {used more : Bytes} {left : Nat}
      (hhead : F a used (more.length + left)) (htail : InARow F as more left) :
      InARow F (a :: as) (used ++ more) left

/-- Forms that are the same are read exactly alike. -/
theorem ReadsExactly.congr {r : Reader α} {F G : Form α} (hr : ReadsExactly r F)
    (h : ∀ a used left, F a used left ↔ G a used left) : ReadsExactly r G := by
  intro c a next
  rw [hr c a next]
  simp only [h]

/-- A reader that reads only forms, and reads each form whatever follows, reads exactly these. -/
theorem ReadsOnly.exactly {r : Reader α} {Written : α → Bytes → Prop} (hr : ReadsOnly r Written)
    (h : ∀ a used, Written a used → Reads r used a) :
    ReadsExactly r fun a used _ => Written a used := by
  intro c a next
  constructor
  · exact hr.takes
  · rintro ⟨used, htakes, hused⟩
    exact (h a used hused).of_takes htakes

/-- What is given in another shape has the same forms. -/
theorem ReadsExactly.map {r : Reader α} {F : Form α} (hr : ReadsExactly r F) (f : α → β) :
    ReadsExactly (r.map f) fun b used left => ∃ a, F a used left ∧ b = f a := by
  intro c b next
  rw [Reader.map, Attempt.bind_eq_ok_iff]
  constructor
  · rintro ⟨a, mid, hread, hpure⟩
    obtain ⟨rfl, rfl⟩ := Attempt.pure_eq_ok_iff.mp hpure
    obtain ⟨used, htakes, hform⟩ := (hr c a mid).mp hread
    exact ⟨used, htakes, a, hform, rfl⟩
  · rintro ⟨used, htakes, a, hform, rfl⟩
    have hread := (hr c a next).mpr ⟨used, htakes, hform⟩
    exact ⟨a, next, hread, rfl⟩

/-- Elements are read exactly where a form of each stands behind that of the one before it. -/
theorem ReadsExactly.elements {element : Reader α} {F : Form α} (helement : ReadsExactly element F)
    (count : Nat) (done : List α) :
    ReadsExactly (elements element count done) fun as used left =>
      ∃ items, items.length = count ∧ as = done.reverse ++ items ∧ InARow F items used left := by
  induction count generalizing done with
  | zero =>
    intro c as next
    rw [Archive.elements, Prod.mk.injEq, Except.ok.injEq]
    constructor
    · rintro ⟨rfl, rfl⟩
      exact ⟨[], .nil c, [], rfl, (List.append_nil _).symm, .nil⟩
    · rintro ⟨used, htakes, items, hcount, rfl, hitems⟩
      obtain rfl := List.length_eq_zero_iff.mp hcount
      cases hitems
      exact ⟨(List.append_nil _).symm, htakes.eq_of_nil.symm⟩
  | succ count ih =>
    intro c as next
    rw [Archive.elements]
    constructor
    · intro hread
      split at hread
      · next a mid hfirst =>
        obtain ⟨used, hused, hform⟩ := (helement c a mid).mp hfirst
        obtain ⟨more, hmore, items, rfl, rfl, hitems⟩ := (ih (a :: done) mid as next).mp hread
        rw [hmore.length_rest] at hform
        exact ⟨used ++ more, hused.append hmore, a :: items, rfl, by simp, .cons hform hitems⟩
      · cases hread
    · rintro ⟨_, htakes, items, hcount, rfl, hitems⟩
      cases hitems with
      | nil => contradiction
      | @cons a items used more _ hform hitems =>
        obtain ⟨mid, hused, hmore⟩ := htakes.of_append
        rw [← hmore.length_rest] at hform
        have hfirst := (helement c a mid).mpr ⟨used, hused, hform⟩
        rw [hfirst]
        exact (ih (a :: done) mid _ next).mpr
          ⟨more, hmore, items, Nat.succ.inj hcount, by simp, hitems⟩

/-- Behind a number, what is read is null, or as much as the number tells. -/
theorem ReadsExactly.counted (tag : String) (null : α) (e : Int → DecodeError)
    {r : Nat → Reader α} {F : Nat → Form α} (hr : ∀ count, ReadsExactly (r count) (F count)) :
    ReadsExactly (int tag >>= fun n =>
        if n = -1 then pure null else if n < 0 then Attempt.fail (e n) else r n.toNat)
      fun a used left => (a = null ∧ used = Field.int (-1))
        ∨ ∃ count more, count < Field.lengths ∧ used = Field.int count ++ more
          ∧ F count a more left := by
  intro c a next
  rw [Attempt.bind_eq_ok_iff]
  constructor
  · rintro ⟨n, mid, hnumber, hread⟩
    obtain ⟨_, htakes, hn, rfl⟩ := (readsOnly_int tag).takes hnumber
    split at hread
    · next hnull =>
      obtain ⟨rfl, rfl⟩ := Attempt.pure_eq_ok_iff.mp hread
      exact ⟨Field.int n, htakes, .inl ⟨rfl, by rw [hnull]⟩⟩
    split at hread
    · exact absurd hread Attempt.fail_ne_ok
    next hnonneg =>
    obtain ⟨count, rfl⟩ := Int.eq_ofNat_of_zero_le (Int.not_lt.mp hnonneg)
    obtain ⟨more, hmore, hform⟩ := (hr count mid a next).mp hread
    have hcount := lt_lengths_of_fits hn
    exact ⟨Field.int count ++ more, htakes.append hmore, .inr ⟨count, more, hcount, rfl, hform⟩⟩
  · rintro ⟨_, htakes, ⟨rfl, rfl⟩ | ⟨count, more, hcount, rfl, hform⟩⟩
    · have hnumber := (reads_int tag (by decide)).of_takes htakes
      exact ⟨-1, next, hnumber, rfl⟩
    · obtain ⟨mid, hused, hmore⟩ := htakes.of_append
      have hnumber := (reads_length tag hcount).of_takes hused
      refine ⟨count, mid, hnumber, ?_⟩
      rw [if_neg (by omega), if_neg (by omega), Int.toNat_natCast]
      exact (hr count mid a next).mpr ⟨more, hmore, hform⟩

/-! ### Failures -/

/-- Which bytes are taken by a read that fails, given its position and error, and the bytes that are
left. -/
abbrev Failure : Type := Nat → DecodeError → (used : Bytes) → (rest : Bytes) → Prop

/-- The reader fails only in the given ways. -/
def FailsOnly (r : Reader α) (F : Failure) : Prop :=
  ∀ c e next, r c = (.error e, next) → ∃ used, Takes c used next ∧ F c.position e used next.rest

/-- There are fewer bytes than needed, and none is taken. -/
def Short (tag : String) (need : Nat) : Failure := fun position e used rest =>
  used = [] ∧ rest.length < need ∧ e = .endOfRecord tag need position rest.length

/-- A written value is taken, and the failure comes behind it. -/
def Behind (Written : α → Bytes → Prop) (F : α → Failure) : Failure := fun position e used rest =>
  ∃ a first second, Written a first ∧ used = first ++ second
    ∧ F a (position + first.length) e second rest

/-- The number that tells how much there is to read is cut, or it is below that of null, or the
failure comes behind it. -/
def Counted (tag : String) (negative : Int → DecodeError) (F : Nat → Failure) : Failure :=
  fun position e used rest => Short tag 4 position e used rest
    ∨ (∃ n, BigEndian.Fits 4 n ∧ n < -1 ∧ used = Field.int n ∧ e = negative n)
    ∨ ∃ count second, count < Field.lengths ∧ used = Field.int count ++ second
      ∧ F count (position + 4) e second rest

/-- A reader that fails in some ways fails in more general ones. -/
theorem FailsOnly.mono {r : Reader α} {F G : Failure} (hr : FailsOnly r F)
    (h : ∀ position e used rest, F position e used rest → G position e used rest) :
    FailsOnly r G := by
  intro c e next hread
  obtain ⟨used, htakes, hfailure⟩ := hr c e next hread
  exact ⟨used, htakes, h _ _ _ _ hfailure⟩

/-- A reader that gives a value does not fail. -/
theorem FailsOnly.pure (a : α) (F : Failure) : FailsOnly (pure a) F := by
  intro c e next hread
  cases hread

/-- What fails at once takes nothing. -/
theorem FailsOnly.fail (e : DecodeError) :
    FailsOnly (Attempt.fail e : Reader α) fun _ e' used _ => used = [] ∧ e' = e := by
  intro c e' next hread
  cases hread
  exact ⟨[], .nil c, rfl, rfl⟩

/-- Attempts in a row fail where the first one does, or behind it. -/
theorem FailsOnly.bind {r : Reader α} {f : α → Reader β} {Written : α → Bytes → Prop}
    {F : Failure} {G : α → Failure} (hfirst : FailsOnly r F) (hread : ReadsOnly r Written)
    (hsecond : ∀ a, FailsOnly (f a) (G a)) :
    FailsOnly (r >>= f) fun position e used rest =>
      F position e used rest ∨ Behind Written G position e used rest := by
  intro c e next hrun
  rw [Attempt.bind_apply] at hrun
  split at hrun
  · next a mid hok =>
    obtain ⟨first, htakes, hwritten⟩ := hread.takes hok
    obtain ⟨second, hmore, hfailure⟩ := hsecond a mid e next hrun
    rw [htakes.position_eq] at hfailure
    exact ⟨first ++ second, htakes.append hmore, .inr ⟨a, first, second, hwritten, rfl, hfailure⟩⟩
  · next e' mid herror =>
    cases hrun
    obtain ⟨used, htakes, hfailure⟩ := hfirst c e next herror
    exact ⟨used, htakes, .inl hfailure⟩

/-- What is given in another shape fails in the same ways. -/
theorem FailsOnly.map {r : Reader α} {F : Failure} (hr : FailsOnly r F) (f : α → β) :
    FailsOnly (do return f (← r)) F := by
  intro c e next hread
  rw [Attempt.bind_apply] at hread
  split at hread
  · cases hread
  · next e' mid herror =>
    cases hread
    exact hr c e next herror

/-- Bytes are not taken where there are fewer. -/
theorem failsOnly_take (tag : String) (n : Nat) : FailsOnly (take tag n) (Short tag n) := by
  intro c e next hread
  simp only [take] at hread
  split at hread
  · next hshort =>
    cases hread
    rw [List.length_take] at hshort
    exact ⟨[], .nil c, rfl, by omega, rfl⟩
  · cases hread

/-- An integer is not read where it is cut. -/
theorem failsOnly_int (tag : String) : FailsOnly (int tag) (Short tag 4) :=
  (failsOnly_take tag 4).map _

/-- Behind a number, a reader fails as the number or the rest does. -/
theorem failsOnly_counted (tag : String) (null : α) (e : Int → DecodeError) {r : Nat → Reader α}
    {F : Nat → Failure} (hr : ∀ count, FailsOnly (r count) (F count)) :
    FailsOnly (int tag >>= fun n =>
        if n = -1 then pure null else if n < 0 then Attempt.fail (e n) else r n.toNat)
      (Counted tag e F) := by
  -- What the number tells decides how the rest can fail.
  have hbehind : ∀ n : Int, FailsOnly
      (if n = -1 then pure null else if n < 0 then Attempt.fail (e n) else r n.toNat)
      fun position e' used rest => (n < -1 ∧ used = [] ∧ e' = e n)
        ∨ ∃ count : Nat, n = count ∧ F count position e' used rest := by
    intro n
    by_cases hnull : n = -1
    · rw [if_pos hnull]
      exact .pure null _
    rw [if_neg hnull]
    by_cases hnegative : n < 0
    · rw [if_pos hnegative]
      refine (FailsOnly.fail (e n)).mono fun position e' used rest hfail => ?_
      exact .inl ⟨by omega, hfail⟩
    rw [if_neg hnegative]
    have hcount : n = (n.toNat : Int) := (Int.toNat_of_nonneg (Int.not_lt.mp hnegative)).symm
    exact (hr n.toNat).mono fun position e' used rest hfail => .inr ⟨n.toNat, hcount, hfail⟩
  refine ((failsOnly_int tag).bind (readsOnly_int tag) hbehind).mono ?_
  rintro position e' used rest (hshort | ⟨n, _, second, ⟨hn, rfl⟩, rfl, hsecond⟩)
  · exact .inl hshort
  rw [Field.length_int] at hsecond
  obtain ⟨hnegative, rfl, rfl⟩ | ⟨count, rfl, hfailure⟩ := hsecond
  · exact .inr (.inl ⟨n, hn, hnegative, List.append_nil _, rfl⟩)
  · exact .inr (.inr ⟨count, second, lt_lengths_of_fits hn, rfl, hfailure⟩)

/-- Elements fail where one of them does, behind those before it. -/
theorem failsOnly_elements {element : Reader α} {F : Form α} {G : Failure}
    (hread : ReadsExactly element F) (helement : FailsOnly element G) (count : Nat)
    (done : List α) :
    FailsOnly (elements element count done) fun position e used rest =>
      ∃ items first last, items.length < count ∧ used = first ++ last
        ∧ InARow F items first (last.length + rest.length)
        ∧ G (position + first.length) e last rest := by
  induction count generalizing done with
  | zero =>
    intro c e next hrun
    cases hrun
  | succ count ih =>
    intro c e next hrun
    rw [Archive.elements] at hrun
    split at hrun
    -- The element is read, and a later one fails.
    · next a mid hok =>
      obtain ⟨used, hused, hform⟩ := (hread c a mid).mp hok
      obtain ⟨_, hmore, items, first, last, hcount, rfl, hitems, hfailure⟩ :=
        ih (a :: done) mid e next hrun
      rw [hmore.length_rest, List.length_append, Nat.add_assoc] at hform
      rw [hused.position_eq, Nat.add_assoc, ← List.length_append] at hfailure
      have htakes := hused.append hmore
      rw [← List.append_assoc] at htakes
      exact ⟨used ++ first ++ last, htakes, a :: items, used ++ first, last,
        Nat.succ_lt_succ hcount, rfl, .cons hform hitems, hfailure⟩
    -- The element itself fails.
    · next e' mid herror =>
      cases hrun
      obtain ⟨used, htakes, hfailure⟩ := helement c e next herror
      exact ⟨used, htakes, [], [], used, Nat.succ_pos count, rfl, .nil, hfailure⟩

/-! ### Fields -/

/-- A byte is read only from itself. -/
theorem readsOnly_byte (tag : String) :
    ReadsOnly (byte tag) fun n used => ∃ b : UInt8, used = [b] ∧ n = b.toNat := by
  refine ((readsOnly_take tag 1).map BigEndian.toNat).mono ?_
  rintro _ _ ⟨bs, ⟨rfl, hlength⟩, rfl⟩
  obtain ⟨b, rfl⟩ := List.length_eq_one_iff.mp hlength
  exact ⟨b, rfl, by simp [BigEndian.toNat]⟩

/-- A byte is read as its number. -/
theorem reads_byte (tag : String) (b : UInt8) : Reads (byte tag) [b] b.toNat := by
  have hread := (reads_take tag [b]).map BigEndian.toNat
  have hnat : BigEndian.toNat [b] = b.toNat := by simp [BigEndian.toNat]
  rwa [hnat] at hread

/-- A byte is not read where there is none. -/
theorem failsOnly_byte (tag : String) : FailsOnly (byte tag) (Short tag 1) :=
  (failsOnly_take tag 1).map _

/-- A truth value is not read where there is no byte. -/
theorem failsOnly_bool (tag : String) : FailsOnly (bool tag) (Short tag 1) :=
  (failsOnly_take tag 1).map _

/-- A long integer is not read where it is cut. -/
theorem failsOnly_long (tag : String) : FailsOnly (long tag) (Short tag 8) :=
  (failsOnly_take tag 8).map _

/-- A buffer is broken if its length is cut or below that of null, or if it is cut itself. -/
def BufferBroken (tag : String) : Failure := Counted tag (.bufferLength · tag) (Short tag)

/-- A buffer is not read where it is broken. -/
theorem failsOnly_buffer (tag : String) : FailsOnly (buffer tag) (BufferBroken tag) :=
  failsOnly_counted tag none _ fun count => (failsOnly_take tag count).map some

/-- A text is broken if its buffer is, or if the buffer, all of which is then taken, is no UTF-8. -/
def TextBroken (tag : String) : Failure := fun position e used rest =>
  BufferBroken tag position e used rest
    ∨ ∃ raw fault, Field.FitsBuffer (some raw) ∧ used = Field.buffer (some raw)
      ∧ Text.Utf8.decode raw = .error fault ∧ e = .text fault tag

/-- A text is not read where it is broken. -/
theorem failsOnly_string (tag : String) : FailsOnly (string tag) (TextBroken tag) := by
  -- Behind its buffer, a text takes no more.
  have hparts : FailsOnly (string tag) fun position e used rest =>
      BufferBroken tag position e used rest
        ∨ Behind (fun ob bs => Field.FitsBuffer ob ∧ bs = Field.buffer ob)
          (fun ob _ e used _ => used = [] ∧ ∃ raw fault, ob = some raw
            ∧ Text.Utf8.decode raw = .error fault ∧ e = .text fault tag) position e used rest := by
    refine (failsOnly_buffer tag).bind (readsOnly_buffer tag) fun ob => ?_
    cases ob with
    | none => exact .pure none _
    | some raw =>
      dsimp only
      split
      · exact .pure _ _
      · next fault hdecode =>
        refine (FailsOnly.fail _).mono ?_
        rintro _ _ _ _ ⟨rfl, rfl⟩
        exact ⟨rfl, raw, fault, rfl, hdecode, rfl⟩
  refine hparts.mono ?_
  rintro position e used rest
    (hbuffer | ⟨_, _, _, ⟨hfits, rfl⟩, rfl, rfl, raw, fault, rfl, hdecode, rfl⟩)
  · exact .inl hbuffer
  · exact .inr ⟨raw, fault, hfits, List.append_nil _, hdecode, rfl⟩

/-- An entry of an access control list is broken if its number is cut or one of its texts is
broken. -/
def AclBroken : Failure := fun position e used rest => Short "perms" 4 position e used rest
  ∨ Behind (fun n bs => BigEndian.Fits 4 n ∧ bs = Field.int n)
    (fun _ position e used rest => TextBroken "scheme" position e used rest
      ∨ Behind (fun s bs => Field.FitsString s ∧ bs = Field.string s)
        (fun _ => TextBroken "id") position e used rest)
    position e used rest

/-- An entry is not read where it is broken. -/
theorem failsOnly_acl : FailsOnly Acl.read AclBroken :=
  (failsOnly_int "perms").bind (readsOnly_int _) fun _ =>
    (failsOnly_string "scheme").bind (readsOnly_string _) fun _ => (failsOnly_string "id").map _

/-! ### Requests -/

/-- The forms of the items that a request can give. -/
def Request.Written : Request → Form Item
  | .byte _ => fun item used _ => ∃ b : UInt8, used = [b] ∧ item = .number b.toNat
  | .bool _ => fun item used _ => ∃ b : UInt8, used = [b] ∧ item = .truth (b.toNat != 0)
  | .int _ => fun item used _ =>
    ∃ n, BigEndian.Fits 4 n ∧ used = Field.int n ∧ item = .number n
  | .long _ => fun item used _ =>
    ∃ n, BigEndian.Fits 8 n ∧ used = Field.long n ∧ item = .number n
  | .buffer _ => fun item used _ =>
    ∃ ob, Field.FitsBuffer ob ∧ used = Field.buffer ob ∧ item = .bytes ob
  | .string _ => fun item used _ =>
    ∃ s, Field.FitsString s ∧ used = Field.string s ∧ item = .text s
  | .vector _ element => fun item used left =>
    -- Null reads as no elements, and so does the number 0.
    item = .list [] ∧ used = Field.int (-1)
      ∨ ∃ items more, items.length < Field.lengths ∧ used = Field.int items.length ++ more
        ∧ InARow element.Written items more left ∧ item = .list items
  | .acl => fun item used _ => ∃ a : Acl, a.Fits ∧ used = a.encode ∧ item = .acl a
  | .rest => fun item used left => left = 0 ∧ item = .bytes (some used)
  | .remaining => fun item used left => used = [] ∧ item = .number left

/-- The ways in which a request can fail. -/
def Request.Broken : Request → Failure
  | .byte tag | .bool tag => Short tag 1
  | .int tag => Short tag 4
  | .long tag => Short tag 8
  | .buffer tag => BufferBroken tag
  | .string tag => TextBroken tag
  | .vector tag element => Counted tag (.vectorLength · tag) fun count position e used rest =>
    ∃ items first last, items.length < count ∧ used = first ++ last
      ∧ InARow element.Written items first (last.length + rest.length)
      ∧ element.Broken (position + first.length) e last rest
  | .acl => AclBroken
  | .rest | .remaining => fun _ _ _ _ => False

/-- What is written as it is read is read exactly, as an item. -/
theorem ReadsOnly.exactly_item {r : Reader α} {Fits : α → Prop} {encode : α → Bytes}
    (hr : ReadsOnly r fun a used => Fits a ∧ used = encode a)
    (h : ∀ a, Fits a → Reads r (encode a) a) (f : α → Item) :
    ReadsExactly (r.map f) fun item used _ => ∃ a, Fits a ∧ used = encode a ∧ item = f a := by
  have hexactly : ReadsExactly r fun a used _ => Fits a ∧ used = encode a := by
    refine hr.exactly ?_
    rintro a _ ⟨hfits, rfl⟩
    exact h a hfits
  refine (hexactly.map f).congr fun item used left => ?_
  simp only [and_assoc]

/-- What is read from any byte, and only from a byte, is read exactly, as an item. -/
theorem ReadsOnly.exactly_byte {r : Reader α} {value : UInt8 → α}
    (hr : ReadsOnly r fun a used => ∃ b, used = [b] ∧ a = value b)
    (h : ∀ b, Reads r [b] (value b)) (f : α → Item) :
    ReadsExactly (r.map f) fun item used _ => ∃ b, used = [b] ∧ item = f (value b) := by
  have hexactly : ReadsExactly r fun a used _ => ∃ b, used = [b] ∧ a = value b := by
    refine hr.exactly ?_
    rintro _ _ ⟨b, rfl, rfl⟩
    exact h b
  refine (hexactly.map f).congr fun item used left => ?_
  constructor
  · rintro ⟨_, ⟨b, hused, rfl⟩, hitem⟩
    exact ⟨b, hused, hitem⟩
  · rintro ⟨b, hused, hitem⟩
    exact ⟨value b, ⟨b, hused, rfl⟩, hitem⟩

/-- A byte is given as a number. -/
theorem Request.run_byte (tag : String) :
    (Request.byte tag).run = Reader.map (fun n : Nat => Item.number n) (Archive.byte tag) :=
  Attempt.bind_assoc _ _ _

/-- A read gives an item if and only if a form of it stands at the cursor, and then it stops behind
that. -/
theorem Request.readsExactly (request : Request) : ReadsExactly request.run request.Written := by
  induction request with
  | byte tag =>
    rw [Request.run_byte]
    exact (readsOnly_byte tag).exactly_byte (reads_byte tag) _
  | bool tag => exact (readsOnly_bool tag).exactly_byte (reads_flag tag) _
  | int tag => exact (readsOnly_int tag).exactly_item (fun _ => reads_int tag) _
  | long tag => exact (readsOnly_long tag).exactly_item (fun _ => reads_long tag) _
  | buffer tag => exact (readsOnly_buffer tag).exactly_item (fun _ => reads_buffer tag) _
  | string tag => exact (readsOnly_string tag).exactly_item (fun _ => reads_string tag) _
  | vector tag element ih =>
    have hvector := ReadsExactly.counted tag [] (.vectorLength · tag) fun count =>
      ih.elements count []
    refine (hvector.map Item.list).congr fun item used left => ?_
    constructor
    · rintro ⟨_, ⟨rfl, hused⟩ | ⟨_, more, hcount, hused, items, rfl, hdone, hitems⟩, hitem⟩
      · exact .inl ⟨hitem, hused⟩
      · rw [hdone] at hitem
        exact .inr ⟨items, more, hcount, hused, hitems, hitem⟩
    · rintro (⟨hitem, hused⟩ | ⟨items, more, hcount, hused, hitems, hitem⟩)
      · exact ⟨[], .inl ⟨rfl, hused⟩, hitem⟩
      · exact ⟨items, .inr ⟨items.length, more, hcount, hused, items, rfl, rfl, hitems⟩, hitem⟩
  | acl => exact Acl.readsOnly.exactly_item (fun _ => Acl.reads) _
  | rest =>
    intro c item next
    constructor
    · intro hrun
      cases hrun
      exact ⟨c.rest, ⟨by simp, rfl⟩, by simp, rfl⟩
    · rintro ⟨used, htakes, hleft, rfl⟩
      have hnil := List.length_eq_zero_iff.mp hleft
      have hused : c.rest = used := by rw [htakes.rest_eq, hnil, List.append_nil]
      have hnext : c.advance used.length = next :=
        Cursor.ext htakes.position_eq.symm (by rw [Cursor.advance_rest, hused, hnil]; simp)
      rw [← hnext, ← hused]
      rfl
  | remaining =>
    intro c item next
    constructor
    · intro hrun
      cases hrun
      exact ⟨[], .nil c, rfl, rfl⟩
    · rintro ⟨_, htakes, rfl, rfl⟩
      rw [htakes.eq_of_nil]
      rfl

/-- A read fails only where the request is broken, behind what is taken then. -/
theorem Request.failsOnly (request : Request) : FailsOnly request.run request.Broken := by
  induction request with
  | byte tag => exact ((failsOnly_byte tag).map _).map _
  | bool tag => exact (failsOnly_bool tag).map _
  | int tag => exact (failsOnly_int tag).map _
  | long tag => exact (failsOnly_long tag).map _
  | buffer tag => exact (failsOnly_buffer tag).map _
  | string tag => exact (failsOnly_string tag).map _
  | vector tag element ih =>
    have hvector := failsOnly_counted tag [] (.vectorLength · tag) fun count =>
      failsOnly_elements element.readsExactly ih count []
    exact hvector.map _
  | acl => exact failsOnly_acl.map _
  | rest | remaining =>
    intro c e next hrun
    cases hrun

end TxnLog.Archive
