import TxnLog.Line
import TxnLog.Proofs.Text.PrefixFree
import TxnLog.Proofs.Text.Rendered

/-!
# A record's lines determine its payload

A payload is shown without a note of how: as text, or in base64. So a text that spells the base64
form of other bytes is shown as they are (`dataText?_shared`), and only such pairs are
(`dataText?_determines`). The summary line tells them apart, for it ends in the number of bytes,
which base64 makes larger.
-/

namespace TxnLog

open Text

namespace TxnBody

/-- The payload of a body that carries one. The data of a multi is only made up for display. -/
def payload? : TxnBody → Option Bytes
  | .create _ data _ _ _ | .createContainer _ data _ _ | .setData _ data _ => some data
  | _ => none

variable {b b' : TxnBody} {bs bs' : Bytes}

/-- A payload is shown. -/
theorem dataText?_of_payload? (h : b.payload? = some bs) :
    b.dataText? = some (Rendered.ofBytes bs).text := by
  cases b <;> simp only [payload?, Option.some.injEq, reduceCtorEq] at h <;> subst h <;> rfl

/-- A summary ends in the length of the payload. -/
theorem summary_of_payload? (h : b.payload? = some bs) :
    ∃ x, b.summary = x ++ (":" ++ decimal bs.length) := by
  have hlength (path : String) : "path:" ++ path ++ " len:" ++ decimal bs.length
      = "path:" ++ path ++ " len" ++ (":" ++ decimal bs.length) := by
    rw [show " len:" = " len" ++ ":" from rfl]
    simp only [String.append_assoc]
  cases b <;> simp only [payload?, Option.some.injEq, reduceCtorEq] at h <;> subst h
  all_goals
    show ∃ x, "path:" ++ orNone _ ++ " len:" ++ decimal _ = _
    exact ⟨_, hlength _⟩

/-- So does the summary line. -/
theorem summary_line_of_payload? (header : TxnHeader) (h : b.payload? = some bs) :
    ∃ x, Txn.summary ⟨header, b⟩ = x ++ (":" ++ decimal bs.length) := by
  obtain ⟨x, hx⟩ := summary_of_payload? h
  rw [Txn.summary, hx, ← String.append_assoc]
  exact ⟨_, rfl⟩

/-- The first two lines of a record whose data is shown. -/
theorem text_ofTxn_of_payload? {display : Display} (hshow : display.showData = true)
    (header : TxnHeader) (h : b.payload? = some bs) :
    ∃ rest, (Line.ofTxn display ⟨header, b⟩).map Line.text
      = Txn.summary ⟨header, b⟩ :: (Rendered.ofBytes bs).text :: rest := by
  rw [Line.ofTxn, hshow, if_pos rfl, dataText?_of_payload? h]
  exact ⟨_, rfl⟩

/-- Payloads are shown by the same text if they are equal or one of them spells the base64 form in
which the other one, which is no text, is shown. The lines of a record tell these apart too. -/
theorem dataText?_determines (h : b.payload? = some bs) (h' : b'.payload? = some bs') :
    (b.dataText? = b'.dataText? ↔
        bs = bs' ∨ Rendered.Resembles bs bs' ∨ Rendered.Resembles bs' bs)
      ∧ ∀ (header header' : TxnHeader) (display : Display), display.showData = true →
        (Line.ofTxn display ⟨header, b⟩).map Line.text
          = (Line.ofTxn display ⟨header', b'⟩).map Line.text → bs = bs' := by
  constructor
  · rw [dataText?_of_payload? h, dataText?_of_payload? h', Option.some.injEq]
    exact Rendered.text_ofBytes_eq_iff
  · intro header header' display hshow hlines
    obtain ⟨rest, hrest⟩ := text_ofTxn_of_payload? hshow header h
    obtain ⟨rest', hrest'⟩ := text_ofTxn_of_payload? hshow header' h'
    rw [hrest, hrest', List.cons.injEq, List.cons.injEq] at hlines
    obtain ⟨hsummary, hdata, -⟩ := hlines
    obtain ⟨x, hx⟩ := summary_line_of_payload? header h
    obtain ⟨x', hx'⟩ := summary_line_of_payload? header' h'
    have hlength : bs.length = bs'.length :=
      Int.ofNat_inj.mp (decimal_behind (hx.symm.trans (hsummary.trans hx')))
    exact Rendered.eq_of_text_eq hdata hlength

/-- The byte `ff` and the text `/w==` are both shown as `/w==`, and the summaries differ. -/
theorem dataText?_determines_shared :
    (create (some "/a") [0xff] [] false 1).dataText?
        = (create (some "/a") [0x2f, 0x77, 0x3d, 0x3d] [] false 1).dataText?
      ∧ (Line.ofTxn ⟨true, false⟩
          ⟨⟨256, 1, 2, 1700000000123, 1⟩, create (some "/a") [0xff] [] false 1⟩).map Line.text
        ≠ (Line.ofTxn ⟨true, false⟩ ⟨⟨256, 1, 2, 1700000000123, 1⟩,
          create (some "/a") [0x2f, 0x77, 0x3d, 0x3d] [] false 1⟩).map Line.text := by
  have hresembles : Rendered.Resembles [0x2f, 0x77, 0x3d, 0x3d] [0xff] :=
    ⟨(Rendered.isFallback_ofBytes_iff [0xff]).mp (by decide +kernel), by decide +kernel⟩
  refine ⟨(dataText?_determines rfl rfl).1.mpr (.inr (.inr hresembles)), fun h => ?_⟩
  have heq : ([0xff] : Bytes) = [0x2f, 0x77, 0x3d, 0x3d] :=
    (dataText?_determines rfl rfl).2 _ _ ⟨true, false⟩ rfl h
  exact absurd heq (by decide)

/-- The text for the data alone does not tell payloads apart. -/
theorem dataText?_shared :
    ¬ ∀ (b b' : TxnBody) (bs bs' : Bytes), b.payload? = some bs → b'.payload? = some bs' →
      b.dataText? = b'.dataText? → bs = bs' := by
  intro h
  have hshown : (create (some "/a") [0xff] [] false 1).dataText?
      = (create (some "/a") [0x2f, 0x77, 0x3d, 0x3d] [] false 1).dataText? := by decide +kernel
  have heq := h _ _ _ _ rfl rfl hshown
  exact absurd heq (by decide)

end TxnBody

end TxnLog
