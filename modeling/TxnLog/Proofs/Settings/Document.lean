import TxnLog.Proofs.Settings
import TxnLog.Settings.Document

/-!
# What settings files hold

Whatever the bytes of a settings file are, no mapping in the value that they hold has a key twice
(`unambiguous_of_ofBytes`): a mapping is built by putting one entry after the other, and a later one
replaces an earlier one with its key.
-/

namespace TxnLog.Settings.Document

/-! ### Meanings -/

namespace Meaning

/-- Two meanings that are joined give a result if both do. -/
theorem join_eq_ok_iff {α β γ : Type} {f : α → β → γ} {x : Meaning α} {y : Meaning β} {c : γ} :
    x.join f y = .ok c ↔ ∃ a b, x = .ok a ∧ y = .ok b ∧ c = f a b := by
  cases x with
  | error m => cases y <;> simp [join]
  | ok a => cases y <;> simp [join, eq_comm]

/-- What is inside a node gives the same result as by itself. -/
theorem inside_eq_ok_iff {α : Type} {x : Meaning α} {a : α} : x.inside = .ok a ↔ x = .ok a := by
  cases x with
  | error m => simp [inside]
  | ok b => simp [inside]

end Meaning

/-! ### Values -/

/-- Every value of the entries is unambiguous. -/
def Clear (entries : List (Key × Value)) : Prop := ∀ e ∈ entries, e.2.Unambiguous

/-- Values stay unambiguous when the entries of two lists are put together. -/
theorem Clear.append {es es' : List (Key × Value)} (h : Clear es) (h' : Clear es') :
    Clear (es ++ es') := by
  intro e he
  obtain he | he := List.mem_append.mp he
  · exact h e he
  · exact h' e he

/-- A date or a time is a value of a further kind. -/
theorem exists_other_of_value {t : Scalar.Time} {v : Value} (h : t.value = .ok v) :
    ∃ o, v = .other o := by
  unfold Scalar.Time.value at h
  split at h
  · contradiction
  · exact ⟨_, (Except.ok.inj h).symm⟩

/-- What a scalar spells is unambiguous. -/
theorem unambiguous_of_resolve {s : String} {v : Value} (h : Scalar.resolve s = .ok v) :
    v.Unambiguous := by
  unfold Scalar.resolve at h
  split at h
  · obtain rfl := Except.ok.inj h
    exact .null
  split at h
  · obtain rfl := Except.ok.inj h
    exact .truth true
  split at h
  · obtain rfl := Except.ok.inj h
    exact .truth false
  split at h
  · contradiction
  split at h
  · obtain ⟨n, -, rfl⟩ := map_eq_ok_iff.mp h
    exact .number (.whole n)
  · obtain rfl := Except.ok.inj h
    exact .number _
  · obtain ⟨o, rfl⟩ := exists_other_of_value h
    exact .other o
  · obtain rfl := Except.ok.inj h
    exact .text s

/-- A mapping that is built of entries is unambiguous if their values are. -/
theorem unambiguous_mappingOf {entries : List (Key × Value)} (h : Clear entries) :
    (mappingOf entries).Unambiguous := by
  -- What is built so far has distinct keys, and values that are unambiguous.
  have hbuilt : ∀ s : Settings, Distinct s → Clear s →
      (Value.mapping (entries.foldl (fun s e => put e.1 e.2 s) s)).Unambiguous := by
    induction entries with
    | nil => exact fun s hkeys hvalues => .mapping hkeys hvalues
    | cons e entries ih =>
      intro s hkeys hvalues
      have hhead := h e List.mem_cons_self
      refine ih (fun e' he' => h e' (List.mem_cons_of_mem _ he')) _ (hkeys.put e.1 e.2) ?_
      intro e' he'
      obtain he' | ⟨-, heq⟩ := of_mem_put he'
      · exact hvalues e' he'
      · rw [heq]
        exact hhead
  exact hbuilt [] .nil (List.forall_mem_nil _)

mutual

/-- The value that a node stands for is unambiguous. -/
theorem unambiguous_of_value : ∀ {n : Node} {v : Value}, value n = .ok v → v.Unambiguous
  | .scalar s isPlain, v, h => by
    rw [value] at h
    split at h
    · split at h
      · next hresolve =>
        obtain rfl := Except.ok.inj h
        exact unambiguous_of_resolve hresolve
      · contradiction
    · obtain rfl := Except.ok.inj h
      exact .text s
  | .list items, v, h => by
    rw [value] at h
    obtain ⟨vs, hvs, rfl⟩ := map_eq_ok_iff.mp h
    exact .list (unambiguous_of_values (Meaning.inside_eq_ok_iff.mp hvs))
  | .mapping es, v, h => by
    rw [value] at h
    obtain ⟨all, hall, rfl⟩ := map_eq_ok_iff.mp h
    exact unambiguous_mappingOf (clear_of_all (Meaning.inside_eq_ok_iff.mp hall))

/-- The values of the elements of a sequence are unambiguous. -/
theorem unambiguous_of_values : ∀ {items : List Node} {vs : List Value}, values items = .ok vs →
    ∀ v ∈ vs, v.Unambiguous
  | [], vs, h => by
    rw [values] at h
    obtain rfl := Except.ok.inj h
    simp
  | item :: items, vs, h => by
    rw [values] at h
    obtain ⟨v, vs, hv, hvs, rfl⟩ := Meaning.join_eq_ok_iff.mp h
    intro v' hv'
    obtain rfl | hv' := List.mem_cons.mp hv'
    · exact unambiguous_of_value hv
    · exact unambiguous_of_values hvs v' hv'

/-- The values of the own entries of a mapping are unambiguous. -/
theorem clear_of_own : ∀ {es : List (Node × Node)} {own : List (Key × Value)},
    (entries es).own = .ok own → Clear own
  | [], own, h => by
    rw [entries] at h
    obtain rfl := Except.ok.inj h
    exact List.forall_mem_nil _
  | (k, v) :: more, own, h => by
    rw [entries] at h
    dsimp only at h
    split at h
    · exact clear_of_own h
    · obtain ⟨e, rest, he, hrest, rfl⟩ := Meaning.join_eq_ok_iff.mp h
      obtain ⟨key, v, -, hv, rfl⟩ := Meaning.join_eq_ok_iff.mp he
      intro e' he'
      obtain rfl | he' := List.mem_cons.mp he'
      · exact unambiguous_of_value hv
      · exact clear_of_own hrest e' he'

/-- The values of the entries laid under those of a mapping are unambiguous. -/
theorem clear_of_under : ∀ {es : List (Node × Node)} {under : List (Key × Value)},
    (entries es).under = .ok under → Clear under
  | [], under, h => by
    rw [entries] at h
    obtain rfl := Except.ok.inj h
    exact List.forall_mem_nil _
  | (k, v) :: more, under, h => by
    rw [entries] at h
    dsimp only at h
    split at h
    · obtain ⟨es, rest, hes, hrest, rfl⟩ := Meaning.join_eq_ok_iff.mp h
      exact (clear_of_merged hes).append (clear_of_under hrest)
    · exact clear_of_under h

/-- The values of all entries of a mapping are unambiguous. -/
theorem clear_of_all {es : List (Node × Node)} {all : List (Key × Value)}
    (h : (entries es).all = .ok all) : Clear all := by
  obtain ⟨under, own, hunder, hown, rfl⟩ := Meaning.join_eq_ok_iff.mp h
  exact (clear_of_under hunder).append (clear_of_own hown)

/-- The values of the entries of a node that is laid under a mapping are unambiguous. -/
theorem clear_of_merged : ∀ {n : Node} {es : List (Key × Value)}, merged n = .ok es → Clear es
  | .scalar _ _, es, h => by
    rw [merged] at h
    contradiction
  | .mapping _, es, h => by
    rw [merged] at h
    exact clear_of_all h
  | .list items, es, h => by
    rw [merged] at h
    exact clear_of_mergedAll h

/-- The values of the entries of the mappings of a sequence are unambiguous. -/
theorem clear_of_mergedAll : ∀ {items : List Node} {es : List (Key × Value)},
    mergedAll items = .ok es → Clear es
  | [], es, h => by
    rw [mergedAll] at h
    obtain rfl := Except.ok.inj h
    exact List.forall_mem_nil _
  | .mapping _ :: items, es, h => by
    rw [mergedAll] at h
    obtain ⟨rest, all, hrest, hall, rfl⟩ := Meaning.join_eq_ok_iff.mp h
    exact (clear_of_mergedAll hrest).append (clear_of_all hall)
  | .scalar _ _ :: _, es, h => by
    rw [mergedAll] at h
    contradiction
  | .list _ :: _, es, h => by
    rw [mergedAll] at h
    contradiction

end

/-- The value that the bytes of a settings file hold is unambiguous. -/
theorem unambiguous_of_ofBytes {bs : Bytes} {v : Value} (h : ofBytes bs = .ok v) :
    v.Unambiguous := by
  unfold ofBytes at h
  obtain ⟨node?, -, h⟩ := bind_eq_ok_iff.mp h
  cases node? with
  | none =>
    obtain rfl := Except.ok.inj h
    exact .null
  | some node =>
    dsimp only at h
    split at h
    · next hvalue =>
      obtain rfl := Except.ok.inj h
      exact unambiguous_of_value hvalue
    · contradiction

end TxnLog.Settings.Document
