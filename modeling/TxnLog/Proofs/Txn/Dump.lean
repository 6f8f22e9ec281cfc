import Mathlib.Data.List.TakeWhile
import TxnLog.Proofs.Text.Quoted
import TxnLog.Txn.Dump

/-!
# A dump loses nothing

Every part of a dump marks its end, so bodies can be read back from their dumps: two bodies with
the same dump are the same, down to the raw bytes of the operations that are nested in them
(`TxnBody.dump_faithful`). The proof follows the shape of a dump: the kind of body is what stands
before the first parenthesis, and behind it the fields come one by one, each between fixed words.
-/

namespace TxnLog

namespace Dump

open Text

variable {r s : String}

/-! ### Fields -/

/-- A text starts with a letter if it is null, and with a quote otherwise. -/
theorem opens_text (o : Option String) : ∃ c, c ≠ ']' ∧ Opens (text o) c := by
  cases o with
  | none => exact ⟨'N', by decide, rfl⟩
  | some s =>
    obtain ⟨q, hq, hopen⟩ := Quoted.opens_text s
    exact ⟨q, by obtain rfl | rfl := hq <;> decide, hopen⟩

/-- A text is told from a null one by its first character, and ends at its second quote. -/
theorem prefixFree_text : PrefixFree text := by
  have hstart (s x r : String) : text none ++ r ≠ text (some s) ++ x := by
    obtain ⟨q, hq, hopen⟩ := Quoted.opens_text s
    have hnone : Opens (text none) 'N' := rfl
    exact hnone.append_ne hopen (by obtain rfl | rfl := hq <;> decide) r x
  intro a b r s h
  cases a <;> cases b
  case none.none => exact ⟨rfl, (String.append_right_inj _).mp h⟩
  case none.some b => exact absurd h (hstart b s r)
  case some.none a => exact absurd h.symm (hstart a r s)
  case some.some a b =>
    obtain ⟨rfl, rfl⟩ := Quoted.prefixFree_text a h
    exact ⟨rfl, rfl⟩

/-- The two truth values start with different letters. -/
theorem prefixFree_truth : PrefixFree truth := by
  have htrue : Opens (truth true) 'T' := rfl
  have hfalse : Opens (truth false) 'F' := rfl
  have hstart := htrue.append_ne hfalse (by decide)
  intro a b r s h
  cases a <;> cases b
  case false.false => exact ⟨rfl, (String.append_right_inj _).mp h⟩
  case false.true => exact absurd h.symm (hstart s r)
  case true.false => exact absurd h (hstart r s)
  case true.true => exact ⟨rfl, (String.append_right_inj _).mp h⟩

/-- A list is an opening bracket, items and a closing one. -/
theorem list_eq (items : List String) : list items = "[" ++ itemsOfList items := by
  rw [list, String.append_assoc, intercalate_append]

/-- A list marks its end if each item does and none starts with the closing bracket. -/
theorem marks_list {α : Type} {write : α → String} {as : List α} (has : ∀ a ∈ as, Marks write a)
    (hopen : ∀ a, ∃ c, c ≠ ']' ∧ Opens (write a) c) :
    Marks (fun as => list (as.map write)) as := by
  intro bs r s h
  simp only [list_eq, String.append_assoc] at h
  exact marks_itemsOfList has hopen ((String.append_right_inj _).mp h)

/-- An access control entry marks its end. -/
theorem prefixFree_acl : PrefixFree acl := by
  rintro ⟨perms, scheme, id⟩ ⟨perms', scheme', id'⟩ r s h
  simp only [acl, String.append_assoc, String.append_right_inj] at h
  obtain ⟨rfl, hscheme⟩ := decimal_before h rfl
  obtain ⟨rfl, hid⟩ := (prefixFree_text _).before hscheme
  obtain ⟨rfl, hend⟩ := (prefixFree_text _).before hid
  exact ⟨rfl, hend⟩

/-- A list of texts marks its end. -/
theorem prefixFree_texts : PrefixFree fun paths : List (Option String) => list (paths.map text) :=
  fun _ => marks_list (fun o _ => prefixFree_text o) opens_text

/-- An access control entry starts with its fixed word. -/
theorem opens_acl (a : Acl) : Opens (acl a) 'A' := by
  have hopen : Opens "ACL(perms=" 'A' := rfl
  simp only [acl, String.append_assoc]
  exact hopen.append _

/-- A list of access control entries marks its end. -/
theorem prefixFree_acls : PrefixFree acls := fun _ =>
  marks_list (fun a _ => prefixFree_acl a) fun a => ⟨'A', by decide, opens_acl a⟩

/-! ### Bodies -/

/-- The name of a kind of body. -/
def kind : TxnBody → String
  | .createSession _ => "CreateSessionTxn"
  | .closeSession _ => "CloseSessionTxn"
  | .create .. => "CreateTxn"
  | .createContainer .. => "CreateContainerTxn"
  | .delete _ => "DeleteTxn"
  | .setData .. => "SetDataTxn"
  | .error _ => "ErrorTxn"
  | .multi _ => "MultiTxn"
  | .unknown .. => "UnknownTxn"

/-- Further sub-operations stand behind what is there. -/
theorem subTxns_eq (done : String) (ts : List SubTxn) :
    subTxns done ts ++ "]" = done ++ restOfList (ts.map subTxn) := by
  induction ts generalizing done with
  | nil => rw [subTxns, List.map_nil, restOfList]
  | cons t ts ih =>
    rw [subTxns, ih, List.map_cons, restOfList, String.append_assoc, String.append_assoc]

/-- A multi shows the list of its sub-operations. -/
theorem body_multi (ts : List SubTxn) :
    body (.multi ts) = "MultiTxn(txns=" ++ (list (ts.map subTxn) ++ ")") := by
  rw [list_eq]
  cases ts with
  | nil => rfl
  | cons t ts =>
    have hend : "])" = "]" ++ ")" := rfl
    have hstart : "MultiTxn(txns=[" = "MultiTxn(txns=" ++ "[" := rfl
    unfold body
    simp only
    rw [hend, hstart, ← String.append_assoc, subTxns_eq, List.map_cons, itemsOfList]
    simp only [String.append_assoc]

/-- What stands before the first parenthesis of a text. -/
def nameOf (s : String) : List Char := s.toList.takeWhile (· != '(')

/-- Behind the first parenthesis may stand anything. -/
theorem nameOf_append {label : String} (h : '(' ∈ label.toList) (x : String) :
    nameOf (label ++ x) = nameOf label := by
  have hstops : (label.toList.takeWhile (· != '(')).length ≠ label.toList.length := fun hlength =>
    absurd (List.takeWhile_eq_self_iff.mp (List.takeWhile_sublist _ |>.eq_of_length hlength) _ h)
      (by decide)
  rw [nameOf, String.toList_append, List.takeWhile_append, if_neg hstops, nameOf]

/-- A dump starts with the name of the body's kind. -/
theorem nameOf_body (b : TxnBody) (r : String) : nameOf (body b ++ r) = (kind b).toList := by
  cases b with
  | multi ts => rw [body_multi, String.append_assoc, nameOf_append (by decide), kind]; decide
  | _ => unfold body; simp only [String.append_assoc]; rw [nameOf_append (by decide), kind]; decide

/-- Dumps that agree up to the end of one are of bodies of one kind. -/
theorem kind_eq {a b : TxnBody} (h : body a ++ r = body b ++ s) : kind a = kind b := by
  have hname := congrArg nameOf h
  rw [nameOf_body, nameOf_body] at hname
  exact String.toList_injective hname

/-- A sub-operation starts with its fixed word. -/
theorem opens_subTxn (t : SubTxn) : Opens (subTxn t) 'S' := by
  have hopen : Opens "SubTxn(type=" 'S' := rfl
  cases t
  unfold subTxn
  simp only [String.append_assoc]
  exact hopen.append _

/-- A list of sub-operations marks its end if each of them does. -/
theorem marks_subTxns {ts : List SubTxn} (hts : ∀ t ∈ ts, Marks subTxn t) :
    Marks (fun ts => list (ts.map subTxn)) ts :=
  marks_list hts fun t => ⟨'S', by decide, opens_subTxn t⟩

/-- A body marks its end if the sub-operations in it do: the names tell its kind, and then the
fields are read in their order. -/
theorem marks_body_of_members {a : TxnBody}
    (hmembers : ∀ ts, a = .multi ts → ∀ t ∈ ts, Marks subTxn t) : Marks body a := by
  intro b r s h
  have hkind := kind_eq h
  cases a <;> cases b <;> simp [kind] at hkind
  case multi.multi ts _ =>
    simp only [body_multi, String.append_assoc, String.append_right_inj] at h
    obtain ⟨rfl, hend⟩ := (marks_subTxns (hmembers ts rfl)).before h
    exact ⟨rfl, hend⟩
  all_goals
    unfold body at h
    simp only [String.append_assoc, String.append_right_inj] at h
  case createSession.createSession =>
    obtain ⟨rfl, hend⟩ := decimal_before h rfl
    exact ⟨rfl, hend⟩
  case closeSession.closeSession =>
    obtain ⟨rfl, hend⟩ := (prefixFree_texts _).before h
    exact ⟨rfl, hend⟩
  case create.create =>
    obtain ⟨rfl, hdata⟩ := (prefixFree_text _).before h
    obtain ⟨rfl, hacl⟩ := (Quoted.prefixFree_bytes _).before hdata
    obtain ⟨rfl, hephemeral⟩ := (prefixFree_acls _).before hacl
    obtain ⟨rfl, hversion⟩ := (prefixFree_truth _).before hephemeral
    obtain ⟨rfl, hend⟩ := decimal_before hversion rfl
    exact ⟨rfl, hend⟩
  case createContainer.createContainer =>
    obtain ⟨rfl, hdata⟩ := (prefixFree_text _).before h
    obtain ⟨rfl, hacl⟩ := (Quoted.prefixFree_bytes _).before hdata
    obtain ⟨rfl, hversion⟩ := (prefixFree_acls _).before hacl
    obtain ⟨rfl, hend⟩ := decimal_before hversion rfl
    exact ⟨rfl, hend⟩
  case delete.delete =>
    obtain ⟨rfl, hend⟩ := (prefixFree_text _).before h
    exact ⟨rfl, hend⟩
  case setData.setData =>
    obtain ⟨rfl, hdata⟩ := (prefixFree_text _).before h
    obtain ⟨rfl, hversion⟩ := (Quoted.prefixFree_bytes _).before hdata
    obtain ⟨rfl, hend⟩ := decimal_before hversion rfl
    exact ⟨rfl, hend⟩
  case error.error =>
    obtain ⟨rfl, hend⟩ := decimal_before h rfl
    exact ⟨rfl, hend⟩
  case unknown.unknown =>
    obtain ⟨rfl, hraw⟩ := decimal_before h rfl
    obtain ⟨rfl, hend⟩ := (Quoted.prefixFree_bytes _).before hraw
    exact ⟨rfl, hend⟩

mutual

/-- A body marks its end. -/
theorem marks_body : ∀ a : TxnBody, Marks body a
  | .multi ts => marks_body_of_members (by rintro _ ⟨⟩; exact marks_members ts)
  | .createSession _ | .closeSession _ | .create .. | .createContainer .. | .delete _
  | .setData .. | .error _ | .unknown .. => marks_body_of_members (by rintro _ ⟨⟩)

/-- A sub-operation marks its end. -/
theorem marks_subTxn : ∀ t : SubTxn, Marks subTxn t
  | .mk type raw b => by
    rintro ⟨type', raw', b'⟩ r s h
    unfold subTxn at h
    simp only [String.append_assoc, String.append_right_inj] at h
    obtain ⟨rfl, hraw⟩ := decimal_before h rfl
    obtain ⟨rfl, hbody⟩ := (Quoted.prefixFree_bytes _).before hraw
    obtain ⟨rfl, hend⟩ := (marks_body b).before hbody
    exact ⟨rfl, hend⟩

/-- The sub-operations of a multi mark their ends. -/
theorem marks_members : ∀ ts : List SubTxn, ∀ t ∈ ts, Marks subTxn t
  | [] => fun _ h => absurd h List.not_mem_nil
  | t :: ts => List.forall_mem_cons.mpr ⟨marks_subTxn t, marks_members ts⟩

end

/-! ### One line -/

/-- A text is shown printably. -/
@[simp]
theorem printable_text (o : Option String) : Printable (text o) := by
  cases o with
  | none => decide
  | some s => exact Quoted.printable_text s

/-- A truth value is shown printably. -/
@[simp]
theorem printable_truth (b : Bool) : Printable (truth b) := by cases b <;> decide

/-- A list of printable items is printable. -/
theorem printable_list {items : List String} (h : ∀ x ∈ items, Printable x) :
    Printable (list items) := by
  have hrest : ∀ xs : List String, (∀ x ∈ xs, Printable x) → Printable (restOfList xs) := by
    intro xs hxs
    induction xs with
    | nil => decide
    | cons x xs ih =>
      rw [List.forall_mem_cons] at hxs
      rw [restOfList, printable_append, printable_append]
      exact ⟨by decide, hxs.1, ih hxs.2⟩
  rw [list_eq, printable_append]
  refine ⟨by decide, ?_⟩
  cases items with
  | nil => decide
  | cons x xs =>
    rw [List.forall_mem_cons] at h
    rw [itemsOfList, printable_append]
    exact ⟨h.1, hrest xs h.2⟩

/-- A list of texts is shown printably. -/
@[simp]
theorem printable_texts (paths : List (Option String)) : Printable (list (paths.map text)) :=
  printable_list (List.forall_mem_map.mpr fun o _ => printable_text o)

/-- A list of access control entries is shown printably. -/
@[simp]
theorem printable_acls (as : List Acl) : Printable (acls as) := by
  refine printable_list (List.forall_mem_map.mpr fun a _ => ?_)
  simp only [acl, printable_append, printable_decimal, printable_text, and_true]
  decide

mutual

/-- A body is shown printably. -/
theorem printable_body : ∀ b : TxnBody, Printable (body b)
  | .multi ts => by
    rw [body_multi, printable_append, printable_append]
    exact ⟨by decide, printable_list (List.forall_mem_map.mpr (printable_members ts)), by decide⟩
  | .createSession _ | .closeSession _ | .create .. | .createContainer .. | .delete _
  | .setData .. | .error _ | .unknown .. => by
    unfold body
    simp only [printable_append, printable_decimal, printable_text, printable_truth,
      printable_texts, printable_acls, Quoted.printable_bytes, and_true]
    decide

/-- A sub-operation is shown printably. -/
theorem printable_subTxn : ∀ t : SubTxn, Printable (subTxn t)
  | .mk type raw b => by
    unfold subTxn
    simp only [printable_append, printable_decimal, Quoted.printable_bytes, printable_body b,
      and_true]
    decide

/-- The sub-operations of a multi are shown printably. -/
theorem printable_members : ∀ ts : List SubTxn, ∀ t ∈ ts, Printable (subTxn t)
  | [] => fun _ h => absurd h List.not_mem_nil
  | t :: ts => List.forall_mem_cons.mpr ⟨printable_subTxn t, printable_members ts⟩

end

end Dump

open Text

/-- A dump loses nothing and stays on one line: two bodies with the same dump are the same in every
field, those of nested operations and their raw bytes included, and no dump holds a control
character or a line break. -/
theorem TxnBody.dump_faithful :
    (∀ a b : TxnBody, a.dump = b.dump ↔ a = b) ∧
      ∀ b : TxnBody, ∀ c ∈ b.dump.toList, ¬ IsControl c ∧ ¬ IsLineBreak c := by
  have hmarks : PrefixFree TxnBody.dump := Dump.marks_body
  refine ⟨fun a b => ⟨fun h => hmarks.injective h, congrArg TxnBody.dump⟩, fun b c hc => ?_⟩
  have hprint := Dump.printable_body b c hc
  exact ⟨not_isControl_of_isPrintable hprint, not_isLineBreak_of_isPrintable hprint⟩

/-- A null path is not shown like the path `None`, and a path and data that hold line breaks are
shown without them. -/
theorem TxnBody.dump_faithful_none :
    (TxnBody.delete none).dump ≠ (TxnBody.delete (some "None")).dump ∧
      ∀ c ∈ (TxnBody.setData (some "/a\n\u2028") [0x0a, 0x85] 1).dump.toList,
        ¬ IsControl c ∧ ¬ IsLineBreak c :=
  ⟨fun h => by simpa using (TxnBody.dump_faithful.1 _ _).mp h, TxnBody.dump_faithful.2 _⟩

end TxnLog
