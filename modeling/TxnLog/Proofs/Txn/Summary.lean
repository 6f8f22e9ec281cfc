import TxnLog.Proofs.Timestamp
import TxnLog.Proofs.Txn.Form
import TxnLog.Txn.Summary

/-!
# A summary line determines the header

The parts of a summary line are read back one by one, each before the fixed word that follows it,
and what is behind them is the summary of the body, whatever it holds. So two lines are the same
only if the headers are (`Txn.summary_eq_iff`).
-/

namespace TxnLog

open Text

variable {r s : String}

/-! ### Operations -/

namespace OpCode

/-- The operation with the given name. -/
def ofName? (s : String) : Option OpCode := all.find? (·.name == s)

/-- An operation is found by its name. -/
theorem ofName?_name (op : OpCode) : ofName? op.name = some op := by cases op <;> rfl

/-- Different operations have different names. -/
theorem name_injective : Function.Injective name := fun op op' h =>
  Option.some.inj ((ofName?_name op).symm.trans ((congrArg ofName? h).trans (ofName?_name op')))

/-- A name is a single word, and not the one for codes that are no operation's. -/
theorem name_spec (op : OpCode) : ' ' ∉ op.name.toList ∧ op.name ≠ "unknown" := by
  cases op <;> decide

/-- A code is shown by the name of its operation, or as unknown. -/
theorem display_eq (n : Int) : (∃ op : OpCode, op.code = n ∧ display n = op.name)
    ∨ display n = "unknown" ++ (" " ++ decimal n) := by
  have hunknown : "unknown " = "unknown" ++ " " := rfl
  rw [display]
  split
  · next op h => exact .inl ⟨op, by simpa using List.find?_some h, rfl⟩
  · exact .inr (by rw [hunknown, String.append_assoc])

/-- A code is found before a space, though the text for an unknown one holds a space itself. -/
theorem display_before {m n : Int} (h : display m ++ (" " ++ r) = display n ++ (" " ++ s)) :
    m = n ∧ r = s := by
  have hspace : Opens " " ' ' := rfl
  have hword : ' ' ∉ "unknown".toList := by decide
  obtain ⟨op, hm, heq⟩ | heq := display_eq m <;> obtain ⟨op', hn, heq'⟩ | heq' := display_eq n
  all_goals rw [heq, heq'] at h
  · obtain ⟨hname, hrest⟩ := eq_of_append_eq hspace (name_spec op).1 (name_spec op').1 h
    exact ⟨by rw [← hm, ← hn, name_injective hname], hrest⟩
  · rw [String.append_assoc, String.append_assoc] at h
    exact absurd (eq_of_append_eq hspace (name_spec op).1 hword h).1 (name_spec op).2
  · rw [String.append_assoc, String.append_assoc] at h
    exact absurd (eq_of_append_eq hspace hword (name_spec op').1 h).1.symm (name_spec op').2
  · simp only [String.append_assoc, String.append_right_inj] at h
    exact decimal_before h rfl

end OpCode

/-! ### Numbers -/

namespace Txn

/-- A number in hexadecimal has no space. -/
theorem notMem_hexId (n : Int) : ' ' ∉ (hexId n).toList := by
  rw [hexId, String.toList_append, List.mem_append, not_or]
  refine ⟨by decide, fun h => ?_⟩
  rw [hexDigits, String.toList_ofList] at h
  exact forall_mem_toDigits (p := (· ≠ ' ')) (by decide) (by decide) _ h rfl

/-- A number that fits 64 bits is found before a word that starts with a space, though a negative
one is shown as an unsigned one. -/
theorem hexId_before {m n : Int} (hm : BigEndian.Fits 8 m) (hn : BigEndian.Fits 8 n) {stop : String}
    (hstop : stop.toList.head? = some ' ') (h : hexId m ++ (stop ++ r) = hexId n ++ (stop ++ s)) :
    m = n ∧ r = s := by
  obtain ⟨hid, hrest⟩ := eq_of_append_eq hstop (notMem_hexId m) (notMem_hexId n) h
  have hmod := hexDigits_injective ((String.append_right_inj _).mp hid)
  simp only [BigEndian.Fits, BigEndian.capacity] at hm hn
  exact ⟨by omega, hrest⟩

/-- A number that fits 32 bits fits 64. -/
theorem fits_eight {n : Int} (h : BigEndian.Fits 4 n) : BigEndian.Fits 8 n := by
  simp only [BigEndian.Fits, BigEndian.capacity] at h ⊢
  omega

/-! ### The line -/

/-- Two summary lines are the same if and only if the headers are, in every field, and what the
bodies put behind them is: no negative number, time without a date, code without an operation or
text in a summary makes different headers look alike. -/
theorem summary_eq_iff {t t' : Txn} (ht : t.header.Fits) (ht' : t'.header.Fits) :
    t.summary = t'.summary ↔ t.header = t'.header ∧ t.body.summary = t'.body.summary := by
  obtain ⟨⟨clientId, cxid, zxid, time, type⟩, b⟩ := t
  obtain ⟨⟨clientId', cxid', zxid', time', type'⟩, b'⟩ := t'
  constructor
  · intro h
    simp only [summary, String.append_assoc] at h
    obtain ⟨rfl, hsession⟩ := (Timestamp.prefixFree_render time).before h
    obtain ⟨rfl, hcxid⟩ := hexId_before ht.clientId ht'.clientId rfl hsession
    obtain ⟨rfl, hzxid⟩ := hexId_before (fits_eight ht.cxid) (fits_eight ht'.cxid) rfl hcxid
    obtain ⟨rfl, htype⟩ := hexId_before ht.zxid ht'.zxid rfl hzxid
    obtain ⟨rfl, hbody⟩ := OpCode.display_before htype
    exact ⟨rfl, hbody⟩
  · rintro ⟨hheader, hbody⟩
    rw [summary, summary, hheader, hbody]

/-- A negative session, a time without a date and a code without an operation are told from
others, and bodies of different kinds are not if they are summed up alike. -/
theorem summary_eq_iff_odd :
    TxnHeader.Fits ⟨-1, 1, -2, 999999999999999999, 77⟩
      ∧ TxnHeader.Fits ⟨1, 1, -2, 999999999999999999, 77⟩
      ∧ Txn.summary ⟨⟨-1, 1, -2, 999999999999999999, 77⟩, .delete (some "/a len:0")⟩
        = Txn.summary ⟨⟨-1, 1, -2, 999999999999999999, 77⟩, .setData (some "/a") [] 5⟩
      ∧ Txn.summary ⟨⟨-1, 1, -2, 999999999999999999, 77⟩, .error 0⟩
        ≠ Txn.summary ⟨⟨1, 1, -2, 999999999999999999, 77⟩, .error 0⟩ := by
  have hodd : TxnHeader.Fits ⟨-1, 1, -2, 999999999999999999, 77⟩ := by
    constructor <;> decide
  have hone : TxnHeader.Fits ⟨1, 1, -2, 999999999999999999, 77⟩ := by
    constructor <;> decide
  exact ⟨hodd, hone, (summary_eq_iff hodd hodd).mpr ⟨rfl, rfl⟩, fun h =>
    absurd ((summary_eq_iff hodd hone).mp h).1 (by decide)⟩

end Txn

end TxnLog
