import TxnLog.Proofs.Calendar.Succession
import TxnLog.Bytes
import TxnLog.Proofs.Timestamp

/-!
# Times are shown by calendar and clock

What is shown for a time is read as a `Reading`, a date and a time of day with each field by itself.
`Reading.At` says which time it is, by the days that are counted on the calendar from January 1,
1970; `format_spec` that every time from the year 1 to the year 9999 is shown by the reading that
is at it, that nothing else is shown as a reading, and that readings are in the order of the times.
-/

namespace TxnLog.Timestamp

open Text Calendar

/-! ### Readings -/

/-- A date and a time of day. -/
structure Reading where
  date : Date
  hours : Nat
  minutes : Nat
  seconds : Nat
  millis : Nat
  deriving DecidableEq, Repr

namespace Reading

/-- The date exists in the years 1 to 9999, and so does the time of day. -/
structure Valid (r : Reading) : Prop where
  date : r.date.Valid
  year : r.date.year ≤ 9999
  hours : r.hours < 24
  minutes : r.minutes < 60
  seconds : r.seconds < 60
  millis : r.millis < 1000

/-- The form in which it is shown, such as `2024-01-02 03:04:05.006Z`. -/
def text (r : Reading) : String :=
  decimal r.date.year ++ "-" ++ decimalPadded 2 r.date.month ++ "-" ++ decimalPadded 2 r.date.day
    ++ " " ++ decimalPadded 2 r.hours ++ ":" ++ decimalPadded 2 r.minutes ++ ":"
    ++ decimalPadded 2 r.seconds ++ "." ++ decimalPadded 3 r.millis ++ "Z"

/-- The milliseconds since midnight. -/
def clock (r : Reading) : Nat := ((r.hours * 60 + r.minutes) * 60 + r.seconds) * 1000 + r.millis

/-- The reading is of the time `ms` milliseconds after the start of 1970. -/
def At (r : Reading) (ms : Int) : Prop :=
  ∃ days : Int, Date.DaysTo ⟨1970, 1, 1⟩ days r.date ∧ days * 86400000 + r.clock = ms

/-- Hours, minutes, seconds and milliseconds. -/
def clockFields (r : Reading) : List Nat := [r.hours, r.minutes, r.seconds, r.millis]

/-- Date and time of day, by which readings are compared. -/
def fields (r : Reading) : List Nat := r.date.fields ++ r.clockFields

/-- The moment of a reading. -/
def moment (r : Reading) : Timestamp := ⟨r.date, r.clock⟩

variable {r r' : Reading} {ms ms' : Int}

/-- A time of day is less than a day. -/
theorem Valid.clock_lt (h : r.Valid) : r.clock < dayLength := by
  obtain ⟨-, -, hhours, hminutes, hseconds, hmillis⟩ := h
  rw [clock, dayLength]
  omega

/-- Readings are shown as their moments are. -/
theorem Valid.text_moment (h : r.Valid) : r.moment.text = r.text := by
  obtain ⟨-, -, hhours, hminutes, hseconds, hmillis⟩ := h
  have hclock : r.clock = ((r.hours * 60 + r.minutes) * 60 + r.seconds) * 1000 + r.millis := rfl
  have hh : r.clock / 1000 / 3600 = r.hours := by omega
  have hm : r.clock / 1000 / 60 % 60 = r.minutes := by omega
  have hs : r.clock / 1000 % 60 = r.seconds := by omega
  have hmillis : r.clock % 1000 = r.millis := by omega
  simp only [Timestamp.text, moment, hh, hm, hs, hmillis, text]

/-- A reading is at the time of its moment. -/
theorem Valid.at_iff (h : r.Valid) : r.At ms ↔ r.moment.toMillis = ms := by
  have hepoch : Date.Valid ⟨1970, 1, 1⟩ := by decide
  have hordinal : Date.ordinal ⟨1970, 1, 1⟩ = epoch := rfl
  simp only [At, Date.daysTo_iff hepoch h.date, exists_eq_left', hordinal]
  rfl

/-- The date goes first. -/
theorem fields_lt_iff : r.fields < r'.fields ↔
    r.date.fields < r'.date.fields ∨ r.date = r'.date ∧ r.clockFields < r'.clockFields := by
  rw [← Date.fields_injective.eq_iff]
  simp only [fields, Date.fields, List.cons_append, List.nil_append, List.cons_lt_cons_iff,
    List.cons.injEq, and_true, List.not_lt_nil, and_false, or_false]
  tauto

/-- Times of day are in the order of their milliseconds. -/
theorem Valid.clock_lt_iff (h : r.Valid) (h' : r'.Valid) :
    r.clock < r'.clock ↔ r.clockFields < r'.clockFields := by
  obtain ⟨-, -, hhours, hminutes, hseconds, hmillis⟩ := h
  obtain ⟨-, -, hhours', hminutes', hseconds', hmillis'⟩ := h'
  simp only [clock, clockFields, List.cons_lt_cons_iff, List.not_lt_nil, and_false, or_false]
  omega

/-- Readings are in the order of their moments. -/
theorem Valid.toMillis_lt_iff (h : r.Valid) (h' : r'.Valid) :
    r.moment.toMillis < r'.moment.toMillis ↔ r.fields < r'.fields := by
  have hclock := h.clock_lt
  have hclock' := h'.clock_lt
  have hdate : r.date = r'.date ↔ r.date.ordinal = r'.date.ordinal :=
    ⟨congrArg Date.ordinal, Date.eq_of_ordinal_eq h.date h'.date⟩
  rw [fields_lt_iff, ← h.clock_lt_iff h', ← Date.ordinal_lt_iff h.date h'.date, hdate]
  -- Neither time of day fills a day, so days decide where they differ.
  simp only [Timestamp.toMillis, moment, dayLength] at hclock hclock' ⊢
  omega

end Reading

/-! ### Times -/

variable {t : Timestamp} {ms ms' : Int}

/-- The reading of a moment. -/
def reading (t : Timestamp) : Reading :=
  let seconds := t.millis / 1000
  { date := t.date, hours := seconds / 3600, minutes := seconds / 60 % 60, seconds := seconds % 60,
    millis := t.millis % 1000 }

/-- A moment is the one of its reading. -/
theorem moment_reading (t : Timestamp) : t.reading.moment = t := by
  have hclock : t.reading.clock = t.millis := by
    simp only [Reading.clock, reading]
    omega
  rw [Reading.moment, hclock]
  rfl

/-- Times have a date from the start of the year 1 to the end of the year 9999. -/
theorem exists_ofMillis?_iff (ms : Int) :
    (∃ t, ofMillis? ms = some t) ↔ -62135596800000 ≤ ms ∧ ms ≤ 253402300799999 := by
  have hdays : 0 ≤ ms / dayLength + epoch ∧ ms / dayLength + epoch < dayLimit
      ↔ -62135596800000 ≤ ms ∧ ms ≤ 253402300799999 := by
    simp only [dayLength, epoch, dayLimit]
    omega
  rw [ofMillis?, ← hdays]
  split
  · next hrange => simp [hrange]
  · next hrange => simp [hrange]

/-- The reading of a time is of an existing date and a time of day. -/
theorem valid_reading (h : ofMillis? ms = some t) : t.reading.Valid := by
  obtain ⟨hdate, hmillis, hms⟩ := ofMillis?_eq_some h
  obtain ⟨-, hlast⟩ := (exists_ofMillis?_iff ms).mp ⟨t, h⟩
  rw [dayLength] at hmillis
  refine ⟨hdate, ?_, ?_, Nat.mod_lt _ (by decide), Nat.mod_lt _ (by decide),
    Nat.mod_lt _ (by decide)⟩
  · -- In a later year, all days of the years before would be over.
    by_contra hyear
    have hbefore : Date.daysBeforeYear 10000 ≤ Date.daysBeforeYear t.date.year :=
      Date.daysBeforeYear_mono (Nat.lt_of_not_le hyear)
    have hlimit : Date.daysBeforeYear 10000 = dayLimit := rfl
    simp only [toMillis, Date.ordinal, epoch, dayLength, dayLimit] at hms hlimit
    omega
  · simp only [reading]
    omega

/-- A time that has a date is shown by a reading that is at it. -/
theorem exists_reading (h : -62135596800000 ≤ ms ∧ ms ≤ 253402300799999) :
    ∃ r : Reading, r.Valid ∧ format ms = .ok r.text ∧ r.At ms := by
  obtain ⟨t, ht⟩ := (exists_ofMillis?_iff ms).mpr h
  have hvalid := valid_reading ht
  have hmoment := moment_reading t
  refine ⟨t.reading, hvalid, ?_, ?_⟩
  · rw [format, ht, ← hvalid.text_moment, hmoment]
  · rw [hvalid.at_iff, hmoment]
    exact (ofMillis?_eq_some ht).2.2

/-- A time that has no date is written as it is. -/
theorem format_of_no_date (h : ¬ (-62135596800000 ≤ ms ∧ ms ≤ 253402300799999)) :
    format ms = (Literal.write ms).map fun number => "<invalid time " ++ number ++ ">" := by
  have hnone : ofMillis? ms = none := by
    rwa [← exists_ofMillis?_iff, ← Option.isSome_iff_exists, Option.not_isSome_iff_eq_none] at h
  rw [format, hnone]

/-- What is shown is the text of the time. -/
theorem render_of_format {s : String} (h : format ms = .ok s) : render ms = s := by
  unfold format at h
  unfold render
  split at h
  · exact Except.ok.inj h
  · unfold Literal.write at h
    split at h
    · exact Except.ok.inj h
    · cases h

/-- Every time that a header holds is shown, since 64 bits do not make that many digits. -/
theorem format_of_fits (h : BigEndian.Fits 8 ms) : format ms = .ok (render ms) := by
  have hbound : 10000000000000000000 ≤ Literal.bound := Literal.pow_le_bound (k := 19) (by decide)
  have hcapacity : BigEndian.capacity 8 = 18446744073709551616 := rfl
  have hwritable : Literal.isWritable ms = true := by
    rw [Literal.isWritable_iff]
    unfold BigEndian.Fits at h
    omega
  unfold format render Literal.write
  rw [hwritable]
  split <;> rfl

/-- A time that is shown by a reading is the one that the reading is at. -/
theorem Reading.Valid.at_of_format {r : Reading} (hr : r.Valid) (h : format ms = .ok r.text) :
    r.At ms := by
  have hrender := render_of_format h
  rw [← hr.text_moment] at hrender
  rw [hr.at_iff]
  cases ht : ofMillis? ms with
  | none =>
    simp only [render, ht, String.append_assoc] at hrender
    exact absurd (by rw [hrender, String.append_empty]) (text_ne_invalid r.moment "" _)
  | some t =>
    obtain ⟨-, hmillis, hms⟩ := ofMillis?_eq_some ht
    simp only [render, ht] at hrender
    obtain ⟨rfl, -⟩ := eq_of_text_append hmillis hr.clock_lt (congrArg (· ++ "") hrender)
    exact hms

/-- From the start of the year 1 to the end of the year 9999, a time is shown by a date of the
Gregorian calendar and a time of day that are at it, and every other time by its number if that has
at most 4300 digits. Longer numbers are not written, and so not shown. What is shown gives back the
time, a reading that is shown is at the time for which it is, and readings are in the order of the
times. -/
theorem format_spec (ms : Int) :
    (-62135596800000 ≤ ms ∧ ms ≤ 253402300799999 →
        ∃ r : Reading, r.Valid ∧ format ms = .ok r.text ∧ r.At ms)
      ∧ (¬ (-62135596800000 ≤ ms ∧ ms ≤ 253402300799999) → ms.natAbs < Literal.bound →
        format ms = .ok ("<invalid time " ++ decimal ms ++ ">"))
      ∧ (Literal.bound ≤ ms.natAbs → format ms = .error .tooLong)
      ∧ (∀ ms' s, format ms = .ok s → format ms' = .ok s → ms' = ms)
      ∧ ∀ r : Reading, r.Valid → format ms = .ok r.text → r.At ms ∧
        ∀ (ms' : Int) (r' : Reading), r'.Valid → format ms' = .ok r'.text →
          (ms < ms' ↔ r.fields < r'.fields) := by
  refine ⟨exists_reading, ?_, ?_, ?_, fun r hr h => ⟨hr.at_of_format h, ?_⟩⟩
  · intro hdate hdigits
    rw [format_of_no_date hdate, Literal.write, if_pos (Literal.isWritable_iff.mpr hdigits)]
    rfl
  · intro hdigits
    have hbound : 1000000000000000 ≤ Literal.bound := Literal.pow_le_bound (k := 15) (by decide)
    have hdate : ¬ (-62135596800000 ≤ ms ∧ ms ≤ 253402300799999) := by omega
    have hlong : ¬ Literal.isWritable ms = true := by
      rw [Literal.isWritable_iff]
      omega
    rw [format_of_no_date hdate, Literal.write, if_neg hlong]
    rfl
  · intro ms' s h h'
    exact prefixFree_render.injective ((render_of_format h').trans (render_of_format h).symm)
  · intro ms' r' hr' h'
    rw [← hr.toMillis_lt_iff hr', hr.at_iff.mp (hr.at_of_format h),
      hr'.at_iff.mp (hr'.at_of_format h')]

/-- A leap day is shown by a reading, and the first time after the year 9999 by its number. -/
theorem format_spec_leapDay :
    (∃ r : Reading, r.Valid ∧ format 951827696789 = .ok r.text ∧ r.At 951827696789)
      ∧ format 253402300800000 = .ok "<invalid time 253402300800000>" := by
  have hbound : 1000000000000000 ≤ Literal.bound := Literal.pow_le_bound (k := 15) (by decide)
  refine ⟨(format_spec 951827696789).1 (by decide), ?_⟩
  rw [(format_spec 253402300800000).2.1 (by decide) (by omega)]
  decide +kernel

/-- The least number with more than 4300 digits is of no time that has a date, and is not shown. -/
theorem format_tooLong :
    ¬ (-62135596800000 ≤ (Literal.bound : Int) ∧ (Literal.bound : Int) ≤ 253402300799999)
      ∧ format Literal.bound ≠ .ok ("<invalid time " ++ decimal Literal.bound ++ ">")
      ∧ format Literal.bound = .error .tooLong := by
  have hbound : 1000000000000000 ≤ Literal.bound := Literal.pow_le_bound (k := 15) (by decide)
  have hdate : ¬ (-62135596800000 ≤ (Literal.bound : Int)
      ∧ (Literal.bound : Int) ≤ 253402300799999) := by omega
  have hlong : ¬ Literal.isWritable Literal.bound = true := by
    rw [Literal.isWritable_iff, Int.natAbs_natCast]
    exact Nat.lt_irrefl _
  have hformat : format Literal.bound = .error .tooLong := by
    rw [format_of_no_date hdate, Literal.write, if_neg hlong]
    rfl
  refine ⟨hdate, ?_, hformat⟩
  rw [hformat]
  exact fun h => nomatch h

/-- Times before 1970, a leap day, and both ends of the range. -/
example : format (-1) = .ok "1969-12-31 23:59:59.999Z"
    ∧ format 951827696789 = .ok "2000-02-29 12:34:56.789Z"
    ∧ format (-62135596800000) = .ok "1-01-01 00:00:00.000Z"
    ∧ format 253402300799999 = .ok "9999-12-31 23:59:59.999Z" := by
  refine ⟨?_, ?_, ?_, ?_⟩ <;> decide +kernel

end TxnLog.Timestamp
