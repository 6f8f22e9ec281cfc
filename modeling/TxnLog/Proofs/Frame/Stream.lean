import TxnLog.Frame.Stream
import TxnLog.Proofs.Frame

/-!
# Frames of a stream

Frames that are read one after the other leave no byte out and use none twice. `Scans` says which
frames are read from a position on until something else is found. They stand end to end
(`Scans.consecutive`), and written again they are the bytes up to where the something else starts
(`Scans.drop_eq`). A reader has no memory: whatever was done with the stream before, what is read
depends on the cursor and on the bytes from there on (`answers_read`).
-/

namespace TxnLog

namespace Frame

/-- However the calls fall short, a read is one with calls that do not. -/
theorem read_eq_unlimited {limit : CallLimit} (hlimit : limit.Productive) (most : Int)
    (c : Cursor) : read limit most c = read .unlimited most c := by
  rw [read_eq hlimit, read_eq CallLimit.productive_unlimited]

/-- Each frame starts where the one before it ends, the first one at `start`, and the last one ends
at `stop`. -/
def Consecutive : (start : Nat) → List Frame → (stop : Nat) → Prop
  | start, [], stop => stop = start
  | start, f :: frames, stop => f.offset = start ∧ Consecutive f.endOffset frames stop

/-- Consecutive frames take as many bytes as they are apart. -/
theorem Consecutive.stop_eq {start stop : Nat} {frames : List Frame}
    (h : Consecutive start frames stop) : stop = start + (frames.flatMap encode).length := by
  induction frames generalizing start with
  | nil => exact h
  | cons f frames ih =>
    obtain ⟨rfl, hmore⟩ := h
    calc stop = f.endOffset + (frames.flatMap encode).length := ih hmore
      _ = f.offset + (f.encode.length + (frames.flatMap encode).length) := by
        rw [endOffset, length_encode, Nat.add_assoc]
      _ = f.offset + ((f :: frames).flatMap encode).length := by
        rw [List.flatMap_cons, List.length_append]

end Frame

namespace Stream

variable {most : Int} {content : Bytes} {p stop : Nat} {frames : List Frame}
  {found : Except FrameError Found}

/-- The frames are read one after the other from a position on, and something else is found where
they stop. -/
inductive Scans (most : Int) (content : Bytes) :
    Nat → List Frame → Except FrameError Found → Nat → Prop where
  | stop {p : Nat} {found : Except FrameError Found} {next : Cursor}
      (hread : Frame.read .unlimited most (Cursor.seek content p) = (found, next))
      (hstop : ∀ f, found ≠ .ok (.frame f)) : Scans most content p [] found p
  | step {p stop : Nat} {f : Frame} {frames : List Frame} {found : Except FrameError Found}
      {next : Cursor}
      (hread : Frame.read .unlimited most (Cursor.seek content p) = (.ok (.frame f), next))
      (hmore : Scans most content f.endOffset frames found stop) :
      Scans most content p (f :: frames) found stop

/-- A frame is read at its offset, and the next read starts at its end. -/
theorem of_read_seek {f : Frame} {next : Cursor}
    (hread : Frame.read .unlimited most (Cursor.seek content p) = (.ok (.frame f), next)) :
    f.WellFormed most ∧ f.offset = p ∧ next = Cursor.seek content f.endOffset
      ∧ content.drop p = f.encode ++ content.drop f.endOffset := by
  obtain ⟨hformed, hoffset, hrest, hnext⟩ := Frame.of_read CallLimit.productive_unlimited hread
  have hp : f.offset = p := hoffset
  have hend : next = Cursor.seek content f.endOffset := by
    rw [hnext, Cursor.advance_seek, ← hp]
    rfl
  rw [hend] at hrest
  exact ⟨hformed, hp, hend, hrest⟩

/-- What is read is found, however the calls fall short, and the cursor is left behind it. -/
theorem use_read {limit : CallLimit} (hlimit : limit.Productive) {s : Stream} {next : Cursor}
    (hread : Frame.read .unlimited most (Cursor.seek s.content s.position) = (found, next)) :
    s.use most (.read limit) = (.found found, ⟨s.content, next.position⟩) := by
  rw [use, Frame.read_eq_unlimited hlimit, hread]

/-- From every position on there are frames to read, or none, and then something else. -/
theorem exists_scans (most : Int) (content : Bytes) (p : Nat) :
    ∃ frames found stop, Scans most content p frames found stop := by
  -- Every frame uses up bytes.
  induction hn : (content.drop p).length using Nat.strong_induction_on generalizing p with
  | h n ih =>
    cases hread : Frame.read .unlimited most (Cursor.seek content p) with
    | mk found next =>
    by_cases hframe : ∃ f, found = .ok (.frame f)
    · obtain ⟨f, rfl⟩ := hframe
      obtain ⟨-, -, hnext, -⟩ := of_read_seek hread
      have hless : (content.drop f.endOffset).length < n := by
        have hlength := Frame.length_of_read hread
        rwa [hnext, Cursor.seek_rest, Cursor.seek_rest, hn] at hlength
      obtain ⟨frames, found, stop, hmore⟩ := ih _ hless f.endOffset rfl
      exact ⟨_, _, _, .step hread hmore⟩
    · exact ⟨_, _, _, .stop hread fun f hf => hframe ⟨f, hf⟩⟩

namespace Scans

/-- Frames that are read one after the other stand end to end. -/
theorem consecutive (h : Scans most content p frames found stop) :
    Frame.Consecutive p frames stop := by
  induction h with
  | stop => rfl
  | step hread _ ih => exact ⟨(of_read_seek hread).2.1, ih⟩

/-- Frames that are read are well-formed. -/
theorem wellFormed (h : Scans most content p frames found stop) :
    ∀ f ∈ frames, f.WellFormed most := by
  induction h with
  | stop => simp
  | step hread _ ih =>
    rw [List.forall_mem_cons]
    exact ⟨(of_read_seek hread).1, ih⟩

/-- Written again, the frames are the bytes up to where they stop. -/
theorem drop_eq (h : Scans most content p frames found stop) :
    content.drop p = frames.flatMap Frame.encode ++ content.drop stop := by
  induction h with
  | stop => rfl
  | @step p stop f frames found next hread hmore ih =>
    calc content.drop p
        = f.encode ++ content.drop f.endOffset := (of_read_seek hread).2.2.2
      _ = f.encode ++ (frames.flatMap Frame.encode ++ content.drop stop) := by rw [ih]
      _ = (f :: frames).flatMap Frame.encode ++ content.drop stop := by
        rw [List.flatMap_cons, List.append_assoc]

/-- What is found where the frames stop is none. -/
theorem last (h : Scans most content p frames found stop) :
    (∃ next, Frame.read .unlimited most (Cursor.seek content stop) = (found, next))
      ∧ ∀ f, found ≠ .ok (.frame f) := by
  induction h with
  | stop hread hstop => exact ⟨⟨_, hread⟩, hstop⟩
  | step _ _ ih => exact ih

/-- The frames are what is read, however the calls fall short. -/
theorem uses_reads (h : Scans most content p frames found stop) (limits : List CallLimit)
    (hlength : limits.length = frames.length) (hlimits : ∀ limit ∈ limits, limit.Productive) :
    uses most ⟨content, p⟩ (limits.map .read)
      = (frames.map fun f => .found (.ok (.frame f)), ⟨content, stop⟩) := by
  induction h generalizing limits with
  | stop =>
    obtain rfl := List.length_eq_zero_iff.mp hlength
    rfl
  | @step p stop f frames found next hread hmore ih =>
    obtain ⟨limit, limits, rfl⟩ := List.exists_cons_of_length_eq_add_one hlength
    rw [List.forall_mem_cons] at hlimits
    have hfirst : use most ⟨content, p⟩ (.read limit)
        = (.found (.ok (.frame f)), ⟨content, f.endOffset⟩) := by
      rw [use_read hlimits.1 hread, (of_read_seek hread).2.2.1]
      rfl
    rw [List.map_cons, uses, hfirst, List.map_cons]
    dsimp only
    rw [ih limits (Nat.succ.inj hlength) hlimits.2]

end Scans

/-! ### What was done before -/

/-- The change of the content that a use makes. -/
def Use.edit? : Use → Option Edit
  | .edit e => some e
  | .read _ | .tell | .rewind _ => none

/-- The first use is done first. -/
theorem uses_cons (s : Stream) (u : Use) (us : List Use) :
    s.uses most (u :: us) =
      ((s.use most u).1 :: ((s.use most u).2.uses most us).1,
        ((s.use most u).2.uses most us).2) := rfl

/-- What is done first is done without what is done later. -/
theorem uses_append (s : Stream) (us vs : List Use) :
    s.uses most (us ++ vs) =
      ((s.uses most us).1 ++ ((s.uses most us).2.uses most vs).1,
        ((s.uses most us).2.uses most vs).2) := by
  induction us generalizing s with
  | nil => rfl
  | cons u us ih => rw [List.cons_append, uses_cons, uses_cons, ih, List.cons_append]

/-- Every use gives one answer. -/
theorem length_answers (most : Int) (s : Stream) (us : List Use) :
    (s.uses most us).1.length = us.length := by
  induction us generalizing s with
  | nil => rfl
  | cons u us ih => rw [uses_cons, List.length_cons, List.length_cons, ih]

/-- A use changes the content only by an edit. -/
theorem use_content (s : Stream) (u : Use) :
    (s.use most u).2.content = u.edit?.elim s.content fun e => e.apply s.content := by
  cases u with
  | rewind p =>
    rw [use]
    cases Cursor.seek? s.content p <;> rfl
  | _ => rfl

/-- The content is what the edits have made of it, in their order. -/
theorem uses_content (s : Stream) (us : List Use) :
    (s.uses most us).2.content
      = (us.filterMap Use.edit?).foldl (fun content e => e.apply content) s.content := by
  induction us generalizing s with
  | nil => rfl
  | cons u us ih =>
    rw [uses_cons, ih, use_content]
    cases hedit : u.edit? with
    | none => rw [List.filterMap_cons_none hedit, Option.elim_none]
    | some e => rw [List.filterMap_cons_some hedit, List.foldl_cons, Option.elim_some]

/-- A read at any moment gives what a first read would give there. -/
theorem answers_read {limit : CallLimit} (hlimit : limit.Productive) (s : Stream)
    (before after : List Use) {t : Stream} (ht : (s.uses most before).2 = t) :
    (s.uses most (before ++ .read limit :: after)).1[before.length]?
      = some (.found (Frame.read .unlimited most (Cursor.seek t.content t.position)).1) := by
  have hlength := length_answers most s before
  rw [uses_append, ht, List.getElem?_append_right hlength.le, hlength, Nat.sub_self,
    uses_cons, use, Frame.read_eq_unlimited hlimit]
  rfl

/-- The frames of a stream from its cursor on, and what is found where they stop. -/
structure Partitioned (most : Int) (s : Stream) (frames : List Frame)
    (found : Except FrameError Found) (stop : Nat) : Prop where
  /-- The frames are read one after the other, however the calls fall short. -/
  reads : ∀ limits : List CallLimit, limits.length = frames.length →
    (∀ limit ∈ limits, limit.Productive) →
    s.uses most (limits.map .read)
      = (frames.map fun f => .found (.ok (.frame f)), ⟨s.content, stop⟩)
  /-- The next read starts where the frames stop. -/
  last : ∀ limit : CallLimit, limit.Productive →
    (use most ⟨s.content, stop⟩ (.read limit)).1 = .found found
  /-- It finds no frame. -/
  not_frame : ∀ f, found ≠ .ok (.frame f)
  /-- There is none that could be found. -/
  not_stored : ∀ (f : Frame) (rest : Bytes), f.WellFormed most → f.offset = stop →
    s.content.drop stop ≠ f.encode ++ rest
  /-- Unwritten space is found where the frames stop. -/
  emptyTail : ∀ offset, found = .ok (.emptyTail offset) → offset = stop
  /-- The end of the file is found inside a frame that would start there. -/
  endOfFile : ∀ offset pending, found = .ok (.endOfFile offset pending) → offset = stop
  /-- Each frame has the mark at its end, and its payload is not longer than the limit. -/
  wellFormed : ∀ f ∈ frames, f.WellFormed most
  /-- Each frame starts where the one before it ends, the first one at the cursor. -/
  consecutive : Frame.Consecutive s.position frames stop
  /-- The cursor is only moved on. -/
  le : s.position ≤ stop
  /-- Written again, the frames are the bytes between the cursor and where they stop. -/
  encode : frames.flatMap Frame.encode = (s.content.drop s.position).take (stop - s.position)

/-- What is scanned partitions the stream. -/
theorem Scans.partitioned {s : Stream} (h : Scans most s.content s.position frames found stop) :
    s.Partitioned most frames found stop := by
  have hstop := h.consecutive.stop_eq
  obtain ⟨⟨next, hread⟩, hnone⟩ := h.last
  refine ⟨h.uses_reads, ?_, hnone, ?_, ?_, ?_, h.wellFormed, h.consecutive, by omega, ?_⟩
  · intro limit hlimit
    rw [use_read hlimit hread]
  · intro f rest hformed hoffset hstored
    have hframe : Frame.read .unlimited most (Cursor.seek s.content stop)
        = (.ok (.frame f), (Cursor.seek s.content stop).advance f.size) :=
      Frame.read_encode CallLimit.productive_unlimited hformed hoffset hstored
    rw [hread, Prod.mk.injEq] at hframe
    exact hnone f hframe.1
  · rintro offset rfl
    exact Frame.offset_of_emptyTail CallLimit.productive_unlimited hread
  · rintro offset pending rfl
    exact (Frame.of_endOfFile CallLimit.productive_unlimited hread).1
  · rw [h.drop_eq, hstop, Nat.add_sub_cancel_left, List.take_left]

/-- The frames of a stream partition it, up to where something else is found. What a read gives,
and where it leaves the cursor, depends on the cursor and the bytes from there on, whatever was done
with the stream before, successfully or not, and however the calls fall short. Nothing but an edit
changes the content. -/
theorem reads_partition (most : Int) :
    (∀ s : Stream, ∃ frames found stop, s.Partitioned most frames found stop)
    ∧ (∀ (s s' : Stream) (before after before' after' : List Use) (t t' : Stream),
      (s.uses most before).2 = t → (s'.uses most before').2 = t' →
      t.position = t'.position → t.content.drop t.position = t'.content.drop t'.position →
      ∀ limit limit' : CallLimit, limit.Productive → limit'.Productive →
      (∃ result,
        (s.uses most (before ++ .read limit :: after)).1[before.length]? = some (.found result)
        ∧ (s'.uses most (before' ++ .read limit' :: after')).1[before'.length]?
          = some (.found result))
      ∧ (t.use most (.read limit)).2.position = (t'.use most (.read limit')).2.position)
    ∧ ∀ (s : Stream) (us : List Use), (s.uses most us).2.content
      = (us.filterMap Use.edit?).foldl (fun content e => e.apply content) s.content := by
  refine ⟨?_, ?_, uses_content⟩
  · intro s
    obtain ⟨frames, found, stop, hscans⟩ := exists_scans most s.content s.position
    exact ⟨frames, found, stop, hscans.partitioned⟩
  · intro s s' before after before' after' t t' ht ht' hposition hbytes limit limit' hlimit hlimit'
    have hcursor : Cursor.seek t.content t.position = Cursor.seek t'.content t'.position :=
      Cursor.ext hposition hbytes
    constructor
    · have hanswer' := answers_read hlimit' s' before' after' ht'
      rw [← hcursor] at hanswer'
      exact ⟨_, answers_read hlimit s before after ht, hanswer'⟩
    · rw [use, use, Frame.read_eq_unlimited hlimit, Frame.read_eq_unlimited hlimit', hcursor]

/-- A frame that is written over unwritten space. -/
def late : Frame := { offset := 0, checksum := 5, payload := [1, 2], trailer := Frame.mark }

/-- A frame is read where unwritten space was found before, and it is read as the first one of the
stream. -/
theorem reads_partition_late :
    (∃ f frames found stop,
      Partitioned 2 ⟨late.encode ++ List.replicate 17 0, 0⟩ (f :: frames) found stop)
    ∧ (uses 2 ⟨List.replicate 32 0, 0⟩
        [.read .unlimited, .rewind (-1), .edit (.write 0 late.encode), .rewind 0,
          .read fun _ => some 1]).1[4]?
      = some (.found (.ok (.frame late))) := by
  obtain ⟨hpartition, hmemory, -⟩ := reads_partition 2
  have hlimit : CallLimit.Productive fun _ => some 1 := by
    rintro p k ⟨⟩
    exact Nat.one_pos
  have hformed : late.WellFormed 2 := by constructor <;> decide
  have hread : Frame.read .unlimited 2 (Cursor.seek (late.encode ++ List.replicate 17 0) 0)
      = (.ok (.frame late), Cursor.seek (late.encode ++ List.replicate 17 0) 15) :=
    Frame.read_encode CallLimit.productive_unlimited hformed rfl rfl
  constructor
  · obtain ⟨frames, found, stop, h⟩ := hpartition ⟨late.encode ++ List.replicate 17 0, 0⟩
    cases frames with
    | nil =>
      obtain rfl : stop = 0 := h.consecutive
      have hlast := h.last .unlimited CallLimit.productive_unlimited
      rw [use, hread, Answer.found.injEq] at hlast
      exact absurd hlast.symm (h.not_frame late)
    | cons f frames => exact ⟨f, frames, found, stop, h⟩
  · have hbefore : (uses 2 ⟨List.replicate 32 0, 0⟩ [.read .unlimited, .rewind (-1),
        .edit (.write 0 late.encode), .rewind 0]).2
        = ⟨late.encode ++ List.replicate 17 0, 0⟩ := rfl
    obtain ⟨⟨result, hresult, hfirst⟩, -⟩ := hmemory ⟨List.replicate 32 0, 0⟩
      ⟨late.encode ++ List.replicate 17 0, 0⟩ _ [] [] [] _ _ hbefore rfl rfl rfl _ .unlimited hlimit
      CallLimit.productive_unlimited
    rw [List.nil_append, uses_cons, use, hread, List.length_nil, List.getElem?_cons_zero,
      Option.some.injEq, Answer.found.injEq] at hfirst
    rw [hfirst]
    exact hresult

end Stream

end TxnLog
