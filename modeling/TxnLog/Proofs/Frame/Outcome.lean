import TxnLog.Proofs.Frame

/-!
# What a read finds

A read starts anywhere in a content, also beyond its end, and its calls may fall short in any way
as long as none comes back empty before the end. What it finds depends on three things only: how
many bytes are left, which length the fields at the cursor tell, and which byte stands in the
trailer's place. `Outcome` lists the six possibilities, the bytes that lead to each, and how many
bytes are used up. One of them always applies (`exists_outcome`), and what applies is what is read
(`read_of_outcome`), so reading and `Outcome` say the same (`read_eq_iff`).
-/

namespace TxnLog.Frame

/-- The length that the bytes at a frame's start tell is one that a frame can have. -/
def Acceptable (most : Int) (bs : Bytes) : Prop := 1 ≤ lengthField bs ∧ lengthField bs ≤ most

/-- The number of bytes before the trailer that the bytes at a frame's start tell. -/
def trailerOffset (bs : Bytes) : Nat := prefixSize + (lengthField bs).toNat

/-- What a read at the cursor finds, and how many bytes it uses up. -/
inductive Outcome (most : Int) (c : Cursor) : Except FrameError Found → Nat → Prop where
  /-- The bytes end before the length is known, or inside the payload. -/
  | endOfFile (h : c.rest.length < prefixSize
      ∨ Acceptable most c.rest ∧ c.rest.length < trailerOffset c.rest) :
      Outcome most c (.ok (.endOfFile c.position c.rest.length)) c.rest.length
  /-- The length is zero, whatever the other bytes are. -/
  | emptyTail (hhead : prefixSize ≤ c.rest.length) (hzero : lengthField c.rest = 0) :
      Outcome most c (.ok (.emptyTail c.position)) prefixSize
  /-- No frame can have the length. -/
  | unreasonable (hhead : prefixSize ≤ c.rest.length)
      (hbounds : lengthField c.rest < 0 ∨ most < lengthField c.rest) :
      Outcome most c (.error (.unreasonableLength (lengthField c.rest) c.position)) prefixSize
  /-- The bytes end with the payload. -/
  | missingTrailer (hacceptable : Acceptable most c.rest)
      (hend : c.rest.length = trailerOffset c.rest) :
      Outcome most c (.error (.missingTrailer (c.position + trailerOffset c.rest)))
        (trailerOffset c.rest)
  /-- Another byte stands in the trailer's place. -/
  | wrongTrailer {byte : UInt8} (hacceptable : Acceptable most c.rest)
      (hbyte : c.rest[trailerOffset c.rest]? = some byte) (hne : byte ≠ mark) :
      Outcome most c (.error (.wrongTrailer byte (c.position + trailerOffset c.rest)))
        (trailerOffset c.rest + 1)
  /-- The mark stands there. -/
  | frame (hacceptable : Acceptable most c.rest)
      (hmark : c.rest[trailerOffset c.rest]? = some mark) :
      Outcome most c (.ok (.frame (ofFields c.position c.rest (lengthField c.rest).toNat)))
        (trailerOffset c.rest + 1)

variable {limit : CallLimit} {most : Int} {c next : Cursor} {found : Except FrameError Found}
  {used : Nat}

/-- A read finds something in every case. -/
theorem exists_outcome (most : Int) (c : Cursor) : ∃ found used, Outcome most c found used := by
  by_cases hshort : c.rest.length < prefixSize
  · exact ⟨_, _, .endOfFile (.inl hshort)⟩
  have hhead : prefixSize ≤ c.rest.length := Nat.le_of_not_lt hshort
  by_cases hzero : lengthField c.rest = 0
  · exact ⟨_, _, .emptyTail hhead hzero⟩
  by_cases hbounds : lengthField c.rest < 0 ∨ most < lengthField c.rest
  · exact ⟨_, _, .unreasonable hhead hbounds⟩
  have hacceptable : Acceptable most c.rest := by
    unfold Acceptable
    omega
  by_cases hpayload : c.rest.length < trailerOffset c.rest
  · exact ⟨_, _, .endOfFile (.inr ⟨hacceptable, hpayload⟩)⟩
  -- The payload is complete, and what matters is the byte behind it.
  cases hbyte : c.rest[trailerOffset c.rest]? with
  | none =>
    have hend := List.getElem?_eq_none_iff.mp hbyte
    exact ⟨_, _, .missingTrailer hacceptable (by omega)⟩
  | some byte =>
    by_cases hmark : byte = mark
    · exact ⟨_, _, .frame hacceptable (hmark ▸ hbyte)⟩
    · exact ⟨_, _, .wrongTrailer hacceptable hbyte hmark⟩

/-- Where a frame's length is acceptable, a read goes by the bytes from the payload on. -/
theorem read_of_acceptable (hlimit : limit.Productive) (hhead : prefixSize ≤ c.rest.length)
    (hacceptable : Acceptable most c.rest) :
    read limit most c =
      if c.rest.length < trailerOffset c.rest then
        (.ok (.endOfFile c.position c.rest.length), c.advance c.rest.length)
      else match c.rest[trailerOffset c.rest]? with
        | none => (.error (.missingTrailer (c.position + trailerOffset c.rest)),
            c.advance (trailerOffset c.rest))
        | some byte =>
          if byte ≠ mark then
            (.error (.wrongTrailer byte (c.position + trailerOffset c.rest)),
              c.advance (trailerOffset c.rest + 1))
          else
            (.ok (.frame { ofFields c.position c.rest (lengthField c.rest).toNat with
              trailer := byte }), c.advance (trailerOffset c.rest + 1)) := by
  obtain ⟨hpos, hmost⟩ := hacceptable
  rw [read_eq hlimit, if_neg (by omega), if_neg (by omega), if_neg (by omega)]
  rfl

/-- What is found is what is read. -/
theorem read_of_outcome (hlimit : limit.Productive) (hmost : 1 ≤ most)
    (h : Outcome most c found used) : read limit most c = (found, c.advance used) := by
  -- The trailer of an acceptable frame is behind its length field.
  have hsize : prefixSize ≤ trailerOffset c.rest := Nat.le_add_right ..
  cases h with
  | endOfFile h =>
    by_cases hshort : c.rest.length < prefixSize
    · rw [read_eq hlimit, if_pos hshort]
    · obtain ⟨hacceptable, hpayload⟩ := h.resolve_left hshort
      rw [read_of_acceptable hlimit (by omega) hacceptable, if_pos hpayload]
  | emptyTail hhead hzero => rw [read_eq hlimit, if_neg (by omega), if_pos hzero]
  | unreasonable hhead hbounds =>
    rw [read_eq hlimit, if_neg (by omega), if_neg (by omega), if_pos hbounds]
  | missingTrailer hacceptable hend =>
    have hnone := List.getElem?_eq_none_iff.mpr hend.le
    rw [read_of_acceptable hlimit (by omega) hacceptable, if_neg (by omega), hnone]
  | wrongTrailer hacceptable hbyte hne =>
    have hlt := (List.getElem?_eq_some_iff.mp hbyte).1
    rw [read_of_acceptable hlimit (by omega) hacceptable, if_neg (by omega), hbyte]
    exact if_pos hne
  | frame hacceptable hmark =>
    have hlt := (List.getElem?_eq_some_iff.mp hmark).1
    rw [read_of_acceptable hlimit (by omega) hacceptable, if_neg (by omega), hmark]
    exact if_neg (not_not_intro rfl)

/-- What is read is what is found, and the bytes for it are used up. -/
theorem read_eq_iff (hlimit : limit.Productive) (hmost : 1 ≤ most) :
    read limit most c = (found, next)
      ↔ ∃ used, Outcome most c found used ∧ next = c.advance used := by
  constructor
  · intro h
    obtain ⟨found', used, houtcome⟩ := exists_outcome most c
    have hread := read_of_outcome hlimit hmost houtcome
    rw [h, Prod.mk.injEq] at hread
    obtain ⟨rfl, rfl⟩ := hread
    exact ⟨used, houtcome, rfl⟩
  · rintro ⟨used, houtcome, rfl⟩
    exact read_of_outcome hlimit hmost houtcome

/-- A frame whose fields stand in a byte string ends behind the trailer. -/
theorem endOffset_ofFields {bs : Bytes} (hmark : bs[trailerOffset bs]? = some mark) (o : Nat) :
    (ofFields o bs (lengthField bs).toNat).endOffset = o + (trailerOffset bs + 1) := by
  have hlength := length_payload_ofFields hmark o
  unfold endOffset size
  rw [hlength]
  rfl

/-- However the read calls fall short, a read at any position, with the bytes `r` ahead, finds: the
end of the file if and only if fewer bytes are ahead than the fields take, or than the fields and an
acceptable payload take; unwritten space if and only if the length is zero, whatever else the bytes
are; an unreasonable length if and only if it is negative or above the limit; a missing or wrong
trailer if and only if the length is acceptable, the payload complete and no mark behind it; and
otherwise the frame that stands there. In each case it is known where the cursor is left. As the
calls of one read are made at different positions, a limit by position stands for any way in which
they can fall short. -/
theorem read_classified (hlimit : limit.Productive) (hmost : 1 ≤ most) (content : Bytes)
    (o : Nat) (r : Bytes) (hr : r = content.drop o) :
    (∀ a pending next,
      read limit most (Cursor.seek content o) = (.ok (.endOfFile a pending), next)
        ↔ (r.length < prefixSize ∨ Acceptable most r ∧ r.length < trailerOffset r)
          ∧ a = o ∧ pending = r.length ∧ next = Cursor.seek content (o + r.length))
    ∧ (∀ a next,
      read limit most (Cursor.seek content o) = (.ok (.emptyTail a), next)
        ↔ (prefixSize ≤ r.length ∧ lengthField r = 0)
          ∧ a = o ∧ next = Cursor.seek content (o + prefixSize))
    ∧ (∀ length a next,
      read limit most (Cursor.seek content o) = (.error (.unreasonableLength length a), next)
        ↔ (prefixSize ≤ r.length ∧ (lengthField r < 0 ∨ most < lengthField r))
          ∧ length = lengthField r ∧ a = o ∧ next = Cursor.seek content (o + prefixSize))
    ∧ (∀ a next,
      read limit most (Cursor.seek content o) = (.error (.missingTrailer a), next)
        ↔ (Acceptable most r ∧ r.length = trailerOffset r)
          ∧ a = o + trailerOffset r ∧ next = Cursor.seek content (o + trailerOffset r))
    ∧ (∀ byte a next,
      read limit most (Cursor.seek content o) = (.error (.wrongTrailer byte a), next)
        ↔ (Acceptable most r ∧ r[trailerOffset r]? = some byte ∧ byte ≠ mark)
          ∧ a = o + trailerOffset r ∧ next = Cursor.seek content (o + (trailerOffset r + 1)))
    ∧ ∀ f next,
      read limit most (Cursor.seek content o) = (.ok (.frame f), next)
        ↔ (Acceptable most r ∧ r[trailerOffset r]? = some mark)
          ∧ f.offset = o ∧ f.checksum = BigEndian.toNat (r.take 8)
          ∧ f.payload = (r.drop prefixSize).take (lengthField r).toNat ∧ f.trailer = mark
          ∧ f.endOffset = o + (trailerOffset r + 1)
          ∧ next = Cursor.seek content f.endOffset := by
  subst hr
  simp only [read_eq_iff hlimit hmost, Cursor.advance_seek]
  refine ⟨fun a pending next => ?_, fun a next => ?_, fun length a next => ?_, fun a next => ?_,
    fun byte a next => ?_, fun f next => ?_⟩
  · constructor
    · rintro ⟨used, houtcome, rfl⟩
      cases houtcome with
      | endOfFile h => exact ⟨h, rfl, rfl, rfl⟩
    · rintro ⟨h, rfl, rfl, rfl⟩
      exact ⟨_, .endOfFile h, rfl⟩
  · constructor
    · rintro ⟨used, houtcome, rfl⟩
      cases houtcome with
      | emptyTail hhead hzero => exact ⟨⟨hhead, hzero⟩, rfl, rfl⟩
    · rintro ⟨⟨hhead, hzero⟩, rfl, rfl⟩
      exact ⟨_, .emptyTail hhead hzero, rfl⟩
  · constructor
    · rintro ⟨used, houtcome, rfl⟩
      cases houtcome with
      | unreasonable hhead hbounds => exact ⟨⟨hhead, hbounds⟩, rfl, rfl, rfl⟩
    · rintro ⟨⟨hhead, hbounds⟩, rfl, rfl, rfl⟩
      exact ⟨_, .unreasonable hhead hbounds, rfl⟩
  · constructor
    · rintro ⟨used, houtcome, rfl⟩
      cases houtcome with
      | missingTrailer hacceptable hend => exact ⟨⟨hacceptable, hend⟩, rfl, rfl⟩
    · rintro ⟨⟨hacceptable, hend⟩, rfl, rfl⟩
      exact ⟨_, .missingTrailer hacceptable hend, rfl⟩
  · constructor
    · rintro ⟨used, houtcome, rfl⟩
      cases houtcome with
      | wrongTrailer hacceptable hbyte hne => exact ⟨⟨hacceptable, hbyte, hne⟩, rfl, rfl⟩
    · rintro ⟨⟨hacceptable, hbyte, hne⟩, rfl, rfl⟩
      exact ⟨_, .wrongTrailer hacceptable hbyte hne, rfl⟩
  · constructor
    · rintro ⟨used, houtcome, rfl⟩
      cases houtcome with
      | frame hacceptable hmark =>
        have hend := endOffset_ofFields hmark o
        exact ⟨⟨hacceptable, hmark⟩, rfl, rfl, rfl, rfl, hend, by rw [← hend]; rfl⟩
    · rintro ⟨⟨hacceptable, hmark⟩, rfl, hchecksum, hpayload, htrailer, hend, rfl⟩
      -- A frame is what its fields are.
      have hfields : f = ofFields f.offset (content.drop f.offset)
          (lengthField (content.drop f.offset)).toNat := by
        cases f
        simp_all [ofFields]
      have houtcome := Outcome.frame (c := Cursor.seek content f.offset) hacceptable hmark
      rw [Cursor.seek_rest, Cursor.seek_position, ← hfields] at houtcome
      exact ⟨_, houtcome, by rw [hend]⟩

/-- A payload of two bytes behind three other bytes. -/
def behindThree : Frame := { offset := 3, checksum := 5, payload := [1, 2], trailer := mark }

/-- Calls that return a single byte, with the frame ahead: it is read where its length is in the
limit, its length is refused where it is not, and behind the end nothing is pending. -/
theorem read_classified_behindThree :
    read (fun _ => some 1) 2 (Cursor.seek ([7, 7, 7] ++ behindThree.encode) 3)
        = (.ok (.frame behindThree), Cursor.seek ([7, 7, 7] ++ behindThree.encode) 18)
      ∧ read (fun _ => some 1) 1 (Cursor.seek ([7, 7, 7] ++ behindThree.encode) 3)
        = (.error (.unreasonableLength 2 3), Cursor.seek ([7, 7, 7] ++ behindThree.encode) 15)
      ∧ read (fun _ => some 1) 2 (Cursor.seek ([7, 7, 7] ++ behindThree.encode) 40)
        = (.ok (.endOfFile 40 0), Cursor.seek ([7, 7, 7] ++ behindThree.encode) 40) := by
  have hlimit : CallLimit.Productive fun _ => some 1 := by
    intro p k h
    obtain rfl := Option.some.inj h
    exact Nat.one_pos
  have hone : (1 : Int) ≤ 1 := by decide
  have htwo : (1 : Int) ≤ 2 := by decide
  obtain ⟨-, -, -, -, -, hframe⟩ := read_classified hlimit htwo
    ([7, 7, 7] ++ behindThree.encode) 3 behindThree.encode rfl
  obtain ⟨-, -, hlength, -, -, -⟩ := read_classified hlimit hone
    ([7, 7, 7] ++ behindThree.encode) 3 behindThree.encode rfl
  obtain ⟨hend, -, -, -, -, -⟩ := read_classified hlimit htwo
    ([7, 7, 7] ++ behindThree.encode) 40 [] rfl
  have hacceptable : Acceptable 2 behindThree.encode := ⟨by decide, by decide⟩
  refine ⟨?_, ?_, ?_⟩
  · exact (hframe _ _).mpr
      ⟨⟨hacceptable, by decide⟩, rfl, by decide, by decide, rfl, by decide, rfl⟩
  · exact (hlength _ _ _).mpr ⟨⟨by decide, .inr (by decide)⟩, by decide, rfl, rfl⟩
  · exact (hend _ _ _).mpr ⟨.inl (by decide), rfl, rfl, rfl⟩

end TxnLog.Frame
