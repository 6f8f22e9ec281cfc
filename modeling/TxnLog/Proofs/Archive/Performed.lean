import TxnLog.Proofs.Archive.Forms
import TxnLog.Proofs.Cursor
import TxnLog.Proofs.Text.Utf8.WellFormed

/-!
# Reads of an archive, one after the other

Reads that share a cursor take the bytes of an archive in their order, whichever of them fail. Where
one stops the next one starts (`Linked`), and each is `Accounted` for: it stops within the archive
and not before it started, it has taken a form of the item that it gives, and where it gives none it
has taken what breaks the request. So what the reads have taken, put together, is the archive up to
where the last one stops (`perform_accounted`).

One read is accounted for by `accounted_of_run`, which rests on `Request.readsExactly` and
`Request.failsOnly`. The rest is an induction on the reads.
-/

namespace TxnLog.Archive

variable {data : Bytes}

/-! ### What a broken field takes -/

/-- The request is for a field of fixed width. -/
def Request.IsFixed : Request → Prop
  | .byte _ | .bool _ | .int _ | .long _ => True
  | _ => False

/-- A field of fixed width that is broken takes nothing. -/
theorem Request.Broken.used_eq_nil {request : Request} {position : Nat} {e : DecodeError}
    {used rest : Bytes} (h : request.Broken position e used rest) (hfixed : request.IsFixed) :
    used = [] := by
  cases request with
  | byte | bool | int | long => exact h.1
  | _ => contradiction

/-- A buffer that is broken takes nothing or its length. -/
theorem BufferBroken.length_used {tag : String} {position : Nat} {e : DecodeError}
    {used rest : Bytes} (h : BufferBroken tag position e used rest) :
    used.length = 0 ∨ used.length = 4 := by
  obtain ⟨rfl, -, -⟩ | ⟨n, -, -, rfl, -⟩ | ⟨count, _, -, rfl, rfl, -, -⟩ := h
  · exact .inl rfl
  · exact .inr (Field.length_int n)
  · rw [List.append_nil]
    exact .inr (Field.length_int count)

/-- A buffer is not broken because of a text. -/
theorem BufferBroken.ne_text {tag tag' : String} {position : Nat} {e : DecodeError}
    {used rest : Bytes} (h : BufferBroken tag position e used rest) (fault : Text.Utf8.Fault) :
    e ≠ .text fault tag' := by
  obtain ⟨-, -, rfl⟩ | ⟨n, -, -, -, rfl⟩ | ⟨count, _, -, -, -, -, rfl⟩ := h <;> simp

/-- A text that is broken because it is no UTF-8 is taken whole. -/
theorem TextBroken.of_text {tag tag' : String} {position : Nat} {fault : Text.Utf8.Fault}
    {used rest : Bytes} (h : TextBroken tag position (.text fault tag') used rest) :
    ∃ raw, ¬ Text.Utf8.WellFormed raw ∧ used = Field.buffer (some raw) := by
  obtain hbuffer | ⟨raw, fault', -, hused, hdecode, -⟩ := h
  · exact absurd rfl (BufferBroken.ne_text hbuffer fault)
  refine ⟨raw, ?_, hused⟩
  rw [← Text.Utf8.exists_decode_iff]
  rintro ⟨s, hs⟩
  rw [hs] at hdecode
  contradiction

/-- A text that is broken for another reason takes what its buffer does. -/
theorem TextBroken.length_used {tag : String} {position : Nat} {e : DecodeError}
    {used rest : Bytes} (h : TextBroken tag position e used rest)
    (hother : ∀ fault, e ≠ .text fault tag) : used.length = 0 ∨ used.length = 4 := by
  obtain hbuffer | ⟨_, fault, -, -, -, rfl⟩ := h
  · exact BufferBroken.length_used hbuffer
  · exact absurd rfl (hother fault)

/-! ### Single reads -/

namespace Performed

/-- The bytes between where the read has started and where it has stopped. -/
def used (data : Bytes) (p : Performed) : Bytes := (data.drop p.start).take (p.stop - p.start)

/-- What is known of a read that was performed on an archive of these bytes. -/
structure Accounted (data : Bytes) (p : Performed) : Prop where
  /-- The cursor is not moved back. -/
  start_le : p.start ≤ p.stop
  /-- Nor is it moved beyond the end. -/
  stop_le : p.stop ≤ data.length
  /-- A read that gives an item takes a form of it. -/
  written : ∀ item, p.result = .ok item →
    p.request.Written item (p.used data) (data.length - p.stop)
  /-- Where a form of an item stands, the item is given, and the read stops behind that form. -/
  complete : ∀ item front back, data.drop p.start = front ++ back →
    p.request.Written item front back.length →
    p.result = .ok item ∧ p.stop = p.start + front.length
  /-- A read that fails takes what breaks its request. -/
  broken : ∀ e, p.result = .error e → p.request.Broken p.start e (p.used data) (data.drop p.stop)
  /-- A field of fixed width that is not read leaves the cursor where it was. -/
  fixed : p.request.IsFixed → ∀ e, p.result = .error e → p.stop = p.start
  /-- A buffer that is not read moves it by nothing, or behind the length. -/
  buffer : ∀ tag, p.request = .buffer tag → ∀ e, p.result = .error e →
    p.stop = p.start ∨ p.stop = p.start + 4
  /-- A text that is no UTF-8 moves it behind all of the text. -/
  malformed : ∀ tag fault, p.request = .string tag → p.result = .error (.text fault tag) →
    ∃ raw, ¬ Text.Utf8.WellFormed raw ∧ p.used data = Field.buffer (some raw)
      ∧ p.stop = p.start + 4 + raw.length
  /-- A text that is not read for another reason moves it as a buffer does. -/
  text : ∀ tag, p.request = .string tag → ∀ e, p.result = .error e →
    (∀ fault, e ≠ .text fault tag) → p.stop = p.start ∨ p.stop = p.start + 4

end Performed

/-- A read takes some of the bytes that are left, which are a form of what it gives or break the
request. -/
theorem Request.of_run {request : Request} {c next : Cursor} {result : Except DecodeError Item}
    (hrun : request.run c = (result, next)) :
    ∃ used, Takes c used next
      ∧ (∀ item, result = .ok item → request.Written item used next.rest.length)
      ∧ ∀ e, result = .error e → request.Broken c.position e used next.rest := by
  cases result with
  | ok item =>
    obtain ⟨used, htakes, hform⟩ := (request.readsExactly c item next).mp hrun
    refine ⟨used, htakes, ?_, by simp⟩
    rintro _ ⟨⟩
    exact hform
  | error e =>
    obtain ⟨used, htakes, hbroken⟩ := request.failsOnly c e next hrun
    refine ⟨used, htakes, by simp, ?_⟩
    rintro _ ⟨⟩
    exact hbroken

/-- What is taken from a position is what stands in the data from there on, and the cursor goes to
the position behind it. -/
theorem Takes.of_seek {start : Nat} {used : Bytes} {next : Cursor}
    (h : Takes (Cursor.seek data start) used next) :
    next = Cursor.seek data next.position
      ∧ (data.drop start).take (next.position - start) = used := by
  have hrest : data.drop start = used ++ next.rest := h.rest_eq
  have hposition : next.position = start + used.length := h.position_eq
  refine ⟨Cursor.ext rfl ?_, ?_⟩
  · rw [Cursor.seek_rest, hposition, ← List.drop_drop, hrest, List.drop_left]
  · rw [hposition, Nat.add_sub_cancel_left, hrest, List.take_left]

/-- A read that starts within the bytes is accounted for, and leaves the cursor at one of their
positions. -/
theorem accounted_of_run {request : Request} {start : Nat} {result : Except DecodeError Item}
    {next : Cursor} (hstart : start ≤ data.length)
    (hrun : request.run (Cursor.seek data start) = (result, next)) :
    next = Cursor.seek data next.position
      ∧ Performed.Accounted data ⟨request, start, result, next.position⟩ := by
  obtain ⟨used, htakes, hwritten, hbroken⟩ := Request.of_run hrun
  obtain ⟨hnext, hused⟩ := htakes.of_seek
  have hrest : data.drop next.position = next.rest := congrArg Cursor.rest hnext.symm
  have hposition : next.position = start + used.length := htakes.position_eq
  have hlength : data.length - start = used.length + next.rest.length := by
    rw [← List.length_drop]
    exact htakes.length_rest
  refine ⟨hnext, ?_⟩
  constructor <;> simp only [Performed.used, hused, hrest]
  case start_le => omega
  case stop_le => omega
  case written =>
    intro item hresult
    have hleft : data.length - next.position = next.rest.length := by omega
    rw [hleft]
    exact hwritten item hresult
  case complete =>
    intro item front back hfront hform
    have htaken : Takes (Cursor.seek data start) front ⟨start + front.length, back⟩ :=
      ⟨hfront, rfl⟩
    have hread := (request.readsExactly _ item _).mpr ⟨front, htaken, hform⟩
    obtain ⟨rfl, rfl⟩ := Prod.mk.inj (hrun.symm.trans hread)
    exact ⟨rfl, rfl⟩
  case broken => exact hbroken
  case fixed =>
    intro hfixed e hresult
    rw [hposition, (hbroken e hresult).used_eq_nil hfixed]
    rfl
  case buffer =>
    rintro tag rfl e hresult
    have htaken := BufferBroken.length_used (hbroken e hresult)
    omega
  case malformed =>
    rintro tag fault rfl hresult
    obtain ⟨raw, hraw, rfl⟩ := TextBroken.of_text (hbroken _ hresult)
    rw [Field.length_buffer, Option.getD_some] at hposition
    exact ⟨raw, hraw, rfl, by omega⟩
  case text =>
    rintro tag rfl e hresult hother
    have htaken := TextBroken.length_used (hbroken e hresult) hother
    omega

/-! ### Reads in a row -/

namespace Performed

/-- The first read starts at `start`, each of the others where the one before it has stopped, and
the last one stops at `stop`. -/
def Linked : (start : Nat) → List Performed → (stop : Nat) → Prop
  | start, [], stop => stop = start
  | start, p :: ps, stop => p.start = start ∧ Linked p.stop ps stop

end Performed

/-- Each request is performed once, in its turn. -/
theorem map_request_perform (requests : List Request) (c : Cursor) :
    (perform requests c).map Performed.request = requests := by
  induction requests generalizing c with
  | nil => rfl
  | cons request requests ih =>
    rw [perform, List.map_cons, ih]

/-- Reads that are performed one after the other are linked, each of them is accounted for, and they
take all bytes up to where the last one stops. -/
theorem perform_seek (requests : List Request) {start : Nat} (hstart : start ≤ data.length) :
    ∃ stop, Performed.Linked start (perform requests (Cursor.seek data start)) stop
      ∧ start ≤ stop ∧ stop ≤ data.length
      ∧ ((perform requests (Cursor.seek data start)).flatMap (Performed.used data))
        = (data.drop start).take (stop - start)
      ∧ ∀ p ∈ perform requests (Cursor.seek data start), p.Accounted data := by
  induction requests generalizing start with
  | nil =>
    refine ⟨start, rfl, Nat.le_refl start, hstart, ?_, by simp [perform]⟩
    rw [Nat.sub_self, List.take_zero]
    rfl
  | cons request requests ih =>
    cases hrun : request.run (Cursor.seek data start) with
    | mk result next =>
    obtain ⟨hnext, haccounted⟩ := accounted_of_run hstart hrun
    have hle : start ≤ next.position := haccounted.start_le
    have hwithin : next.position ≤ data.length := haccounted.stop_le
    obtain ⟨stop, hlinked, hmore, hstop, hused, hall⟩ := ih hwithin
    rw [perform, hrun]
    dsimp only
    rw [hnext]
    refine ⟨stop, ⟨rfl, hlinked⟩, hle.trans hmore, hstop, ?_, ?_⟩
    · have hsplit : stop - start = (next.position - start) + (stop - next.position) := by omega
      rw [List.flatMap_cons, hused, hsplit, List.take_add, List.drop_drop, Nat.add_sub_cancel' hle]
      rfl
    · rw [List.forall_mem_cons]
      exact ⟨haccounted, hall⟩

/-- On an archive of any bytes, whatever is read and whichever of the reads fail, each read is
accounted for. The first one starts at the first byte and each of the others where the one before it
has stopped, so no byte up to where the last one stops is left out or taken twice. -/
theorem perform_accounted (data : Bytes) (requests : List Request) :
    ∃ stop ≤ data.length, Performed.Linked 0 (perform requests (.ofBytes data)) stop
      ∧ (perform requests (.ofBytes data)).map Performed.request = requests
      ∧ (perform requests (.ofBytes data)).flatMap (Performed.used data) = data.take stop
      ∧ ∀ p ∈ perform requests (.ofBytes data), p.Accounted data := by
  obtain ⟨stop, hlinked, -, hstop, hused, hall⟩ := perform_seek requests (Nat.zero_le data.length)
  exact ⟨stop, hstop, hlinked, map_request_perform requests _, hused, hall⟩

/-- An archive with a text that is no UTF-8, and two buffers of which the second one is cut. -/
def damaged : Bytes := [0, 0, 0, 1, 0xff, 0, 0, 0, 2, 0, 0, 0, 1, 7, 0, 0, 0, 9, 5, 6]

/-- The text is taken whole, and of the vector what stands before the missing bytes. The long
integer behind them is cut and takes nothing, so that a byte is still read. -/
theorem perform_accounted_damaged :
    (perform [.string "name", .vector "parts" (.buffer "part"), .long "time", .byte "mark"]
        (.ofBytes damaged)).map Performed.stop = [5, 18, 18, 19]
      ∧ ∀ p ∈ perform [.string "name", .vector "parts" (.buffer "part"), .long "time", .byte "mark"]
          (.ofBytes damaged), p.Accounted damaged := by
  obtain ⟨stop, -, -, -, -, hall⟩ := perform_accounted damaged
    [.string "name", .vector "parts" (.buffer "part"), .long "time", .byte "mark"]
  exact ⟨by decide +kernel, hall⟩

end TxnLog.Archive
