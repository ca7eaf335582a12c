import ExprEngine.Run.Recording
import Mathlib.Data.List.Induction

/-!
# Entries of recordings

A recording that follows a log has the last value that was recorded of each node.
-/

namespace ExprEngine.Recording

theorem lookup_insert (id other : Int) (v : Value) (entries : List (Int × Value)) :
    (insert id v entries).lookup other = if other = id then some v else entries.lookup other := by
  induction entries with
  | nil =>
    unfold insert
    by_cases same : other = id
    · simp [same]
    · simp [List.lookup_cons, same, beq_false_of_ne same]
  | cons e rest ih =>
    obtain ⟨i, w⟩ := e
    unfold insert
    split
    · by_cases same : other = id
      · simp [same]
      · simp [List.lookup_cons, same, beq_false_of_ne same]
    · split
      · next found =>
        subst found
        by_cases same : other = id
        · simp [same]
        · simp [List.lookup_cons, same, beq_false_of_ne same]
      · next elsewhere =>
        by_cases here : other = i
        · subst here
          simp [Ne.symm elsewhere]
        · simp [List.lookup_cons, beq_false_of_ne here, ih]

theorem get?_set (r : Recording) (id other : Int) (v : Value) :
    (r.set id v).get? other = if other = id then some v else r.get? other :=
  lookup_insert id other v r.entries

theorem mem_ids_iff (r : Recording) (id : Int) : id ∈ r.ids ↔ ∃ v, r.get? id = some v := by
  unfold ids get?
  induction r.entries with
  | nil => simp
  | cons e rest ih =>
    obtain ⟨i, w⟩ := e
    by_cases here : id = i
    · simp [here]
    · rw [List.map_cons, List.mem_cons, ih, List.lookup_cons, beq_false_of_ne here]
      simp [here]

theorem follow_append (r : Recording) (first rest : List Event) :
    r.follow (first ++ rest) = (r.follow first).follow rest := List.foldl_append ..

theorem get?_follow_last (r : Recording) (log : List Event) (id : Int) (v : Value) :
    (r.follow (log ++ [.recorded id v])).get? id = some v := by
  rw [follow_append]
  exact get?_set_self (r.follow log) id v

theorem get?_follow_cases (r : Recording) {log : List Event} {id : Int} {v : Value}
    (found : (r.follow log).get? id = some v) : r.get? id = some v ∨ .recorded id v ∈ log := by
  induction log using List.reverseRecOn with
  | nil => exact .inl found
  | append_singleton log e ih =>
    rw [follow_append] at found
    cases e with
    | recorded i w =>
      have found : ((r.follow log).set i w).get? id = some v := found
      rw [get?_set] at found
      split at found
      · next here =>
        obtain rfl := Option.some.inj found
        subst here
        exact .inr (by simp)
      · exact (ih found).imp_right (List.mem_append_left _)
    | _ => exact (ih found).imp_right (List.mem_append_left _)

theorem mem_ids_follow (log : List Event) (id : Int) :
    id ∈ (({} : Recording).follow log).ids ↔ ∃ v, .recorded id v ∈ log := by
  constructor
  · intro known
    obtain ⟨v, found⟩ := (mem_ids_iff _ id).mp known
    rcases get?_follow_cases {} found with before | recorded
    · cases before
    · exact ⟨v, recorded⟩
  · rintro ⟨v, recorded⟩
    rw [mem_ids_iff]
    induction log using List.reverseRecOn with
    | nil => cases recorded
    | append_singleton log e ih =>
      rcases List.mem_append.mp recorded with before | last
      · obtain ⟨w, found⟩ := ih before
        rw [follow_append]
        cases e with
        | recorded i u =>
          change ∃ v, ((({} : Recording).follow log).set i u).get? id = some v
          rw [get?_set]
          split
          · exact ⟨u, rfl⟩
          · exact ⟨w, found⟩
        | _ => exact ⟨w, found⟩
      · obtain rfl := List.mem_singleton.mp last
        exact ⟨v, get?_follow_last {} log id v⟩

end ExprEngine.Recording
