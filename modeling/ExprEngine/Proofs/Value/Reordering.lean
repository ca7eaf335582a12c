import ExprEngine.Proofs.Value.Equality

/-!
# The order of entries

Maps are compared entry by entry, and the first entry that is not equal to the one under its key
gives the result. So the order in which the entries were inserted shows exactly where two entries
differ from their counterparts in different ways: one is unequal and the other one fails, or they
fail in different ways.
-/

namespace ExprEngine.Value

section

variable [HostObjects] {m m' n : Entries Value} {e f : Key × Value} {v : Value}
  {entries entries' : List (Key × Value)}

/-- How an entry compares with what `n` has under its key. -/
def verdict (n : Entries Value) (e : Key × Value) : Value :=
  match n.get? e.1 with
  | none => bool false
  | some y => e.2.equal y

theorem equalEntries_cons_equal (same : verdict n e = bool true) (rest : List (Key × Value)) :
    equalEntries (e :: rest) n = equalEntries rest n := by
  rw [verdict] at same
  rw [equalEntries_cons]
  cases found : n.get? e.1 with
  | none =>
    rw [found] at same
    cases same
  | some y =>
    rw [found] at same
    simp only [same]

theorem equalEntries_cons_other (other : verdict n e ≠ bool true) (rest : List (Key × Value)) :
    equalEntries (e :: rest) n = verdict n e := by
  rw [verdict] at other ⊢
  rw [equalEntries_cons]
  cases found : n.get? e.1 with
  | none => rfl
  | some y =>
    simp only [found] at other ⊢
    split
    next same => exact absurd same other
    next => rfl

theorem equalEntries_cases (entries : List (Key × Value)) (n : Entries Value) :
    (∀ e ∈ entries, verdict n e = bool true) ∧ equalEntries entries n = bool true ∨
      ∃ e ∈ entries, verdict n e ≠ bool true ∧ equalEntries entries n = verdict n e := by
  induction entries with
  | nil => exact .inl ⟨by simp, rfl⟩
  | cons e rest ih =>
    by_cases same : verdict n e = bool true
    · rw [equalEntries_cons_equal same, List.forall_mem_cons, and_iff_right same]
      refine ih.imp_right fun ⟨f, member, other, result⟩ => ?_
      exact ⟨f, List.mem_cons_of_mem e member, other, result⟩
    · exact .inr ⟨e, List.mem_cons_self, same, equalEntries_cons_other same rest⟩

theorem exists_perm_equalEntries (member : e ∈ m.toList) (other : verdict n e ≠ bool true) :
    ∃ m' : Entries Value, m'.toList.Perm m.toList ∧ equalEntries m'.toList n = verdict n e := by
  obtain ⟨before, after, listed⟩ := List.append_of_mem member
  have perm : (e :: (before ++ after)).Perm m.toList := listed ▸ List.perm_middle.symm
  obtain ⟨m', first⟩ := Entries.exists_of_perm perm
  exact ⟨m', first ▸ perm, by rw [first, equalEntries_cons_other other]⟩

theorem equalEntries_perm
    (agree : ∀ e ∈ entries, ∀ f ∈ entries, verdict n e ≠ bool true → verdict n f ≠ bool true →
      verdict n e = verdict n f) (perm : entries'.Perm entries) :
    equalEntries entries' n = equalEntries entries n := by
  rcases equalEntries_cases entries' n with ⟨all, result⟩ | ⟨e, member, other, result⟩
  · rcases equalEntries_cases entries n with ⟨-, result'⟩ | ⟨f, member, other, -⟩
    · rw [result, result']
    · exact absurd (all f (perm.mem_iff.mpr member)) other
  -- Each order may be decided by another entry, which is where the entries have to agree.
  · rcases equalEntries_cases entries n with ⟨all, -⟩ | ⟨f, member', other', result'⟩
    · exact absurd (all e (perm.mem_iff.mp member)) other
    · rw [result, result', agree e (perm.mem_iff.mp member) f member' other other']

theorem equal_perm_of_unlike (perm : m'.toList.Perm m.toList)
    (other : ∀ n, v = map n → m.size ≠ n.size) : (map m').equal v = (map m).equal v := by
  cases v with
  | map n =>
    have short := other n rfl
    rw [equal_map, equal_map, Entries.size_eq_of_perm perm, if_neg short, if_neg short]
  | _ => rfl

theorem equal_perm
    (agree : ∀ n, v = map n → m.size = n.size → ∀ e ∈ m.toList, ∀ f ∈ m.toList,
      verdict n e ≠ bool true → verdict n f ≠ bool true → verdict n e = verdict n f)
    (perm : m'.toList.Perm m.toList) : (map m').equal v = (map m).equal v := by
  by_cases sized : ∃ n, v = map n ∧ m.size = n.size
  · obtain ⟨n, rfl, long⟩ := sized
    rw [equal_map, equal_map, Entries.size_eq_of_perm perm, if_pos long, if_pos long]
    exact equalEntries_perm (agree n rfl long) perm
  · exact equal_perm_of_unlike perm fun n compared long => sized ⟨n, compared, long⟩

theorem equal_perm_of_isWhole [TrustedObjects] (whole : (map m).isWhole = true)
    (whole' : v.isWhole = true) (perm : m'.toList.Perm m.toList) :
    (map m').equal v = (map m).equal v := by
  refine equal_perm (fun n compared _ e mine f other unequal unequal' => ?_) perm
  subst compared
  have decided : ∀ e ∈ m.toList, verdict n e ≠ bool true → verdict n e = bool false := by
    intro e member
    rw [verdict]
    cases found : n.get? e.1 with
    | none => exact fun _ => rfl
    | some y =>
      intro unequal
      obtain ⟨b, answer⟩ := equal_whole e.2 y (isWhole_map_iff.mp whole e member)
        (isWhole_map_iff.mp whole' (e.1, y) (Entries.get?_eq_some_iff.mp found))
      cases b with
      | false => exact answer
      | true => exact absurd answer unequal
  rw [decided e mine unequal, decided f other unequal']

/-- The entries of the right map are found by their keys, so their order never matters. -/
theorem equal_perm_right (perm : m'.toList.Perm m.toList) (v : Value) :
    v.equal (map m') = v.equal (map m) := by
  have found (k : Key) : m'.get? k = m.get? k := by
    ext y
    rw [Entries.get?_eq_some_iff, Entries.get?_eq_some_iff, perm.mem_iff]
  have entries (l : List (Key × Value)) : equalEntries l m' = equalEntries l m := by
    induction l with
    | nil => rfl
    | cons e rest ih => rw [equalEntries_cons, equalEntries_cons, found, ih]
  cases v with
  | map l => rw [equal_map, equal_map, Entries.size_eq_of_perm perm, entries]
  | object origin => cases origin <;> rfl
  | _ => rfl

/-- A map equals a value in the same way for every order of its entries, exactly unless the value is
a map of its size and two of its entries differ from their counterparts there in different ways. -/
theorem equal_perm_iff :
    (∀ m' : Entries Value, m'.toList.Perm m.toList → (map m').equal v = (map m).equal v) ↔
      ∀ n, v = map n → m.size = n.size → ∀ e ∈ m.toList, ∀ f ∈ m.toList,
        verdict n e ≠ bool true → verdict n f ≠ bool true → verdict n e = verdict n f := by
  constructor
  · rintro same n rfl long e mine f other unequal unequal'
    have result {m' : Entries Value} (perm : m'.toList.Perm m.toList) :
        equalEntries m'.toList n = equalEntries m.toList n := by
      have agree := same m' perm
      rwa [equal_map, equal_map, Entries.size_eq_of_perm perm, if_pos long, if_pos long] at agree
    obtain ⟨first, perm, answer⟩ := exists_perm_equalEntries mine unequal
    obtain ⟨second, perm', answer'⟩ := exists_perm_equalEntries other unequal'
    rw [← answer, ← answer', result perm, result perm']
  · exact fun agree m' perm => equal_perm agree perm

end

attribute [local instance] HostObjects.silent

/-- One order reports the failure, and the other one decides. -/
theorem order_of_entries_shows :
    let failed := error { kind := .divideByZero, message := "division by zero" }
    let other := map ((Entries.empty.push (.string "a") (int 1)).push (.string "b") (int 1))
    (map ((Entries.empty.push (.string "a") failed).push (.string "b") (int 2))).equal other =
        failed ∧
      (map ((Entries.empty.push (.string "b") (int 2)).push (.string "a") failed)).equal other =
        bool false :=
  ⟨rfl, rfl⟩

end ExprEngine.Value
