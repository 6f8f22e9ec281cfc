import TxnLog.Proofs.Text.Base64
import TxnLog.Proofs.Text.Utf8.WellFormed
import TxnLog.Text.Rendered

/-!
# Bytes for display are read back

Bytes that are well-formed UTF-8 are shown as their text, all others in base64, and each of the two
is read back by its own decoder (`ofBytes_lossless`). The text alone does not tell which of the two
was used: `text_ofBytes_eq_iff` says which bytes share one.
-/

namespace TxnLog.Text.Rendered

variable {bs bs' : Bytes}

/-- Well-formed bytes are shown as the text that they encode. -/
theorem ofBytes_of_wellFormed (h : Utf8.WellFormed bs) :
    ∃ s, Utf8.encode s = bs ∧ ofBytes bs = ⟨s, .utf8⟩ := by
  obtain ⟨s, hs⟩ := (Utf8.exists_decode_iff bs).mpr h
  exact ⟨s, Utf8.encode_of_decode hs, by rw [ofBytes, hs]⟩

/-- All other bytes are shown in base64. -/
theorem ofBytes_of_not_wellFormed (h : ¬ Utf8.WellFormed bs) :
    ofBytes bs = ⟨Base64.encode bs, .base64⟩ := by
  rw [ofBytes]
  split
  · next s hs => exact absurd ((Utf8.exists_decode_iff bs).mp ⟨s, hs⟩) h
  · rfl

/-- Base64 is a fallback for bytes that are not well-formed. -/
theorem isFallback_ofBytes_iff (bs : Bytes) :
    (ofBytes bs).isFallback = true ↔ ¬ Utf8.WellFormed bs := by
  by_cases h : Utf8.WellFormed bs
  · obtain ⟨s, -, hshown⟩ := ofBytes_of_wellFormed h
    simp [hshown, isFallback, h]
  · simp [ofBytes_of_not_wellFormed h, isFallback, h]

/-- The bytes that are shown so. -/
def bytes? (r : Rendered) : Option Bytes :=
  match r.encoding with
  | .utf8 => some (Utf8.encode r.text)
  | .base64 => Base64.decode? r.text

/-- Text and encoding give back the bytes. -/
theorem bytes?_ofBytes (bs : Bytes) : (ofBytes bs).bytes? = some bs := by
  by_cases h : Utf8.WellFormed bs
  · obtain ⟨s, rfl, hshown⟩ := ofBytes_of_wellFormed h
    rw [hshown]
    rfl
  · rw [ofBytes_of_not_wellFormed h]
    exact Base64.decode?_encode bs

/-- No two byte strings share text and encoding. -/
theorem ofBytes_injective : Function.Injective ofBytes := by
  intro bs bs' h
  have hbytes := congrArg bytes? h
  rw [bytes?_ofBytes, bytes?_ofBytes] at hbytes
  exact Option.some.inj hbytes

/-- Bytes are shown as text exactly if they are well-formed UTF-8, and the text is encoded as these
bytes; all others are shown in the standard form of base64, from which they are decoded. So no two
byte strings share text and encoding. -/
theorem ofBytes_lossless (bs : Bytes) :
    ((ofBytes bs).isFallback = false ↔ Utf8.WellFormed bs)
      ∧ ((ofBytes bs).isFallback = false → Utf8.encode (ofBytes bs).text = bs)
      ∧ ((ofBytes bs).isFallback = true →
        Base64.Standard (ofBytes bs).text bs ∧ Base64.decode? (ofBytes bs).text = some bs)
      ∧ ∀ bs', ofBytes bs' = ofBytes bs → bs' = bs := by
  have hfallback := isFallback_ofBytes_iff bs
  have htext : (ofBytes bs).isFallback = false ↔ Utf8.WellFormed bs := by
    rw [← Bool.not_eq_true, hfallback, not_not]
  refine ⟨htext, fun h => ?_, fun h => ?_, fun bs' h => ofBytes_injective h⟩
  · obtain ⟨s, hs, hshown⟩ := ofBytes_of_wellFormed (htext.mp h)
    rw [hshown]
    exact hs
  · rw [ofBytes_of_not_wellFormed (hfallback.mp h)]
    exact ⟨Base64.standard_encode bs, Base64.decode?_encode bs⟩

/-- The three bytes that would encode a surrogate are shown in base64. -/
theorem ofBytes_lossless_surrogate : ofBytes [0xed, 0xa0, 0x80] = ⟨"7aCA", .base64⟩
    ∧ ¬ Utf8.WellFormed [0xed, 0xa0, 0x80]
    ∧ Base64.decode? "7aCA" = some [0xed, 0xa0, 0x80] := by
  have hshown : ofBytes [0xed, 0xa0, 0x80] = ⟨"7aCA", .base64⟩ := by decide +kernel
  obtain ⟨htext, -, hbase64, -⟩ := ofBytes_lossless [0xed, 0xa0, 0x80]
  rw [hshown] at htext hbase64
  exact ⟨hshown, fun h => absurd (htext.mpr h) (by decide), (hbase64 rfl).2⟩

/-! ### Texts that are shared -/

/-- The bytes `bs'` are the text that is shown for `bs`, which are no text, in base64. -/
def Resembles (bs' bs : Bytes) : Prop :=
  ¬ Utf8.WellFormed bs ∧ bs' = Utf8.encode (Base64.encode bs)

/-- Bytes that look like the base64 form of others are shown as these are. -/
theorem Resembles.text_eq (h : Resembles bs' bs) : (ofBytes bs').text = (ofBytes bs).text := by
  obtain ⟨hbs, rfl⟩ := h
  rw [ofBytes_of_not_wellFormed hbs, ofBytes, Utf8.decode_encode]

/-- A text that is shown as other bytes are in base64 looks like their base64 form. -/
theorem resembles_of_text_eq (hbs' : Utf8.WellFormed bs') (hbs : ¬ Utf8.WellFormed bs)
    (h : (ofBytes bs').text = (ofBytes bs).text) : Resembles bs' bs := by
  obtain ⟨s, rfl, hshown⟩ := ofBytes_of_wellFormed hbs'
  rw [hshown, ofBytes_of_not_wellFormed hbs] at h
  exact ⟨hbs, congrArg Utf8.encode h⟩

/-- The text alone tells bytes apart unless one of the two looks like the base64 form of the
other. -/
theorem text_ofBytes_eq_iff :
    (ofBytes bs).text = (ofBytes bs').text ↔ bs = bs' ∨ Resembles bs bs' ∨ Resembles bs' bs := by
  constructor
  · intro h
    by_cases hbs : Utf8.WellFormed bs <;> by_cases hbs' : Utf8.WellFormed bs'
    · -- Both are shown as texts.
      obtain ⟨s, rfl, hshown⟩ := ofBytes_of_wellFormed hbs
      obtain ⟨s', rfl, hshown'⟩ := ofBytes_of_wellFormed hbs'
      rw [hshown, hshown'] at h
      exact .inl (congrArg Utf8.encode h)
    · exact .inr (.inl (resembles_of_text_eq hbs hbs' h))
    · exact .inr (.inr (resembles_of_text_eq hbs' hbs h.symm))
    · -- Both are shown in base64.
      refine .inl (ofBytes_injective ?_)
      rw [ofBytes_of_not_wellFormed hbs, ofBytes_of_not_wellFormed hbs'] at h ⊢
      exact congrArg (Rendered.mk · .base64) h
  · rintro (rfl | h | h)
    · rfl
    · exact h.text_eq
    · exact h.text_eq.symm

/-- Base64 makes bytes longer, so what looks like the form of others is longer than these. -/
theorem Resembles.length_lt (h : Resembles bs' bs) : bs.length < bs'.length := by
  obtain ⟨hbs, rfl⟩ := h
  have hpos : 0 < bs.length := by
    rw [List.length_pos_iff]
    rintro rfl
    exact hbs .nil
  obtain ⟨chars, padding, htext, hform⟩ := Base64.standard_encode bs
  have hbits := hform.bits
  calc bs.length < chars.length := by omega
    _ ≤ (Base64.encode bs).toList.length := by simp [htext]
    _ ≤ (Utf8.encode (Base64.encode bs)).length := Utf8.length_le_length_encode _

/-- Bytes are told apart by the text and their number. -/
theorem eq_of_text_eq (h : (ofBytes bs).text = (ofBytes bs').text)
    (hlength : bs.length = bs'.length) : bs = bs' := by
  obtain heq | hresembles | hresembles := text_ofBytes_eq_iff.mp h
  · exact heq
  · exact absurd hlength hresembles.length_lt.ne'
  · exact absurd hlength hresembles.length_lt.ne

end TxnLog.Text.Rendered
