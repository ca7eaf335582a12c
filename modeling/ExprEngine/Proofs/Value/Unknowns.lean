import ExprEngine.Value.Basic
import Mathlib.Data.List.Sort

/-!
# Unknowns among operands

The lists of ids behind unknown sets are the strictly ascending ones, so a set is determined by its
members. A scan of operands finds a set unless none of them is unknown, and its members are those of
all unknown operands, in whatever order these come.
-/

namespace ExprEngine

namespace UnknownSet

variable {s t : UnknownSet}

theorem eq_of_members (same : ∀ id, id ∈ s.ids ↔ id ∈ t.ids) : s = t := by
  have ids : s.ids = t.ids := s.ascending.eq_of_mem_iff t.ascending same
  cases s
  cases t
  cases ids
  rfl

/-- Lists of ids that come of one id, of ids in any order, and of merging such lists. -/
inductive Made : List Int → Prop
  | single (id : Int) : Made (singleton id).ids
  | listed (ids : List Int) : Made (ofList ids).ids
  | merged {xs ys : List Int} (left : Made xs) (right : Made ys) : Made (mergeIds xs ys)

theorem Made.ascending {ids : List Int} (made : Made ids) : ids.Pairwise (· < ·) := by
  induction made with
  | single id => exact (singleton id).ascending
  | listed ids => exact ascending_sortIds ids
  | merged _ _ left right => exact ascending_mergeIds left right

theorem sortIds_of_ascending {ids : List Int} (ascending : ids.Pairwise (· < ·)) :
    sortIds ids = ids :=
  (ascending_sortIds ids).eq_of_mem_iff ascending fun _ => mem_sortIds ids

theorem made_iff {ids : List Int} : Made ids ↔ ids.Pairwise (· < ·) := by
  refine ⟨Made.ascending, fun ascending => ?_⟩
  rw [← sortIds_of_ascending ascending]
  exact .listed ids

/-! ### Unions -/

theorem union_comm (s t : UnknownSet) : s.union t = t.union s :=
  eq_of_members fun id => by rw [mem_union, mem_union, or_comm]

theorem union_self (s : UnknownSet) : s.union s = s :=
  eq_of_members fun id => by rw [mem_union, or_self]

theorem union_assoc (s t u : UnknownSet) : (s.union t).union u = s.union (t.union u) :=
  eq_of_members fun id => by simp only [mem_union, or_assoc]

/-! ### Search -/

theorem getElem_lt_getElem_iff {ids : Array Int} (ascending : ids.toList.Pairwise (· < ·))
    {i j : Nat} (hi : i < ids.size) (hj : j < ids.size) : ids[i] < ids[j] ↔ i < j := by
  have before : ∀ {i j : Nat} (hi : i < ids.size) (hj : j < ids.size),
      i < j → ids[i] < ids[j] := fun hi hj less =>
    List.pairwise_iff_getElem.mp ascending _ _ hi hj less
  refine ⟨fun less => ?_, before hi hj⟩
  rcases Nat.lt_trichotomy i j with below | rfl | above
  · exact below
  · exact absurd less (Int.lt_irrefl _)
  · exact absurd less (Int.lt_asymm (before hj hi above))

theorem search_iff {ids : Array Int} (ascending : ids.toList.Pairwise (· < ·)) (id : Int)
    (lo : Fin (ids.size + 1)) (hi : Fin ids.size) (le : lo.1 ≤ hi.1) :
    Array.binSearchAux (· < ·) Option.isSome ids id lo hi le = true ↔
      ∃ i, ∃ h : i < ids.size, lo.1 ≤ i ∧ i ≤ hi.1 ∧ ids[i] = id := by
  -- A middle id that is too small or too large leaves only the places on one side of it.
  fun_induction Array.binSearchAux (fun x y : Int => decide (x < y)) Option.isSome ids id lo hi le
  with
  | case1 lo hi _ middle x small _ _ ih =>
    refine ih.trans (exists_congr fun i => exists_congr fun h => ?_)
    have after : ids[middle] < ids[i] ↔ middle < i := getElem_lt_getElem_iff ascending (by omega) h
    replace small : ids[middle] < id := of_decide_eq_true small
    dsimp only
    omega
  | case2 lo hi _ middle x small _ _ =>
    simp only [Option.isSome_none, Bool.false_eq_true, false_iff, not_exists]
    intro i h
    have after : ids[middle] < ids[i] ↔ middle < i := getElem_lt_getElem_iff ascending (by omega) h
    replace small : ids[middle] < id := of_decide_eq_true small
    omega
  | case3 lo hi _ middle x _ large _ _ =>
    simp only [Option.isSome_none, Bool.false_eq_true, false_iff, not_exists]
    intro i h
    have before : ids[i] < ids[middle] ↔ i < middle := getElem_lt_getElem_iff ascending h (by omega)
    replace large : id < ids[middle] := of_decide_eq_true large
    omega
  | case4 lo hi _ middle x _ large _ _ ih =>
    refine ih.trans (exists_congr fun i => exists_congr fun h => ?_)
    have before : ids[i] < ids[middle] ↔ i < middle := getElem_lt_getElem_iff ascending h (by omega)
    replace large : id < ids[middle] := of_decide_eq_true large
    dsimp only
    omega
  | case5 lo hi _ middle x notSmall notLarge _ =>
    have found : ids[middle] = id := by
      simp only [decide_eq_true_eq] at notSmall notLarge
      exact Int.le_antisymm (Int.not_lt.mp notLarge) (Int.not_lt.mp notSmall)
    simp only [Option.isSome_some, true_iff]
    exact ⟨middle, by omega, by omega, by omega, found⟩

theorem contains_iff (s : UnknownSet) (id : Int) : s.contains id = true ↔ id ∈ s.ids := by
  have ascending : s.ids.toArray.toList.Pairwise (· < ·) := s.ascending
  rw [← List.mem_toArray, Array.mem_iff_getElem, contains, Array.binSearchContains]
  by_cases nonempty : 0 < s.ids.toArray.size
  · have last : s.ids.toArray.size - 1 < s.ids.toArray.size := by omega
    simp only [nonempty, last, Nat.zero_le, ↓reduceDIte, ↓reduceIte]
    refine (search_iff ascending id _ _ _).trans (exists_congr fun i => exists_congr fun h => ?_)
    dsimp only
    omega
  · simp only [nonempty, ↓reduceDIte, Bool.false_eq_true, false_iff, not_exists]
    intro i h
    omega

end UnknownSet

namespace Value

variable {operands : List Value}

/-! ### Scans of operands -/

/-- What the scan for unknowns has found after some operands. -/
theorem foldl_union_spec (operands : List Value) (found : Option UnknownSet) :
    let scanned := operands.foldl (fun found v => match v with
      | unknown s => some (match found with
        | some t => t.union s
        | none => s)
      | _ => found) found
    (scanned = none ↔ found = none ∧ ∀ w ∈ operands, w.isUnknown = false) ∧
      ∀ s, scanned = some s → ∀ id, id ∈ s.ids ↔
        (∃ t, found = some t ∧ id ∈ t.ids) ∨ ∃ t, unknown t ∈ operands ∧ id ∈ t.ids := by
  induction operands generalizing found with
  | nil =>
    refine ⟨by simp, ?_⟩
    rintro s rfl id
    simp
  | cons w rest ih =>
    rw [List.foldl_cons]
    cases w with
    | unknown u =>
      obtain ⟨missing, members⟩ := ih (some (match found with
        | some t => t.union u
        | none => u))
      refine ⟨?_, fun s scanned id => ?_⟩
      · simp only [missing, reduceCtorEq, false_and, List.mem_cons, forall_eq_or_imp, isUnknown,
          Bool.true_eq_false, and_false]
      · rw [members s scanned id]
        cases found with
        | none => simp [or_and_right, exists_or]
        | some t => simp [UnknownSet.mem_union, or_and_right, exists_or, or_assoc]
    | _ =>
      obtain ⟨missing, members⟩ := ih found
      refine ⟨?_, fun s scanned id => ?_⟩
      · simp [missing, isUnknown]
      · rw [members s scanned id]
        simp

theorem unknownOf_eq_none : unknownOf operands = none ↔ ∀ w ∈ operands, w.isUnknown = false :=
  (foldl_union_spec operands none).1.trans (and_iff_right rfl)

theorem unknownOf_isSome (h : ∃ v ∈ operands, v.isUnknown = true) :
    (unknownOf operands).isSome = true := by
  rw [Option.isSome_iff_ne_none]
  intro nothing
  obtain ⟨v, member, isUnknown⟩ := h
  rw [unknownOf_eq_none.mp nothing v member] at isUnknown
  cases isUnknown

theorem mem_unknownOf {s : UnknownSet} (found : unknownOf operands = some s) (id : Int) :
    id ∈ s.ids ↔ ∃ t, unknown t ∈ operands ∧ id ∈ t.ids := by
  refine ((foldl_union_spec operands none).2 s found id).trans (or_iff_right ?_)
  rintro ⟨t, start, -⟩
  cases start

theorem propagate_unknown (h : ∃ v ∈ operands, v.isUnknown = true) :
    ∃ s, propagate operands = some (unknown s) ∧
      ∀ id, id ∈ s.ids ↔ ∃ t, unknown t ∈ operands ∧ id ∈ t.ids := by
  obtain ⟨s, found⟩ := Option.isSome_iff_exists.mp (unknownOf_isSome h)
  refine ⟨s, ?_, mem_unknownOf found⟩
  rw [propagate, found]

/-- The order of the unknown operands, and what stands between them, makes no difference. -/
theorem propagate_perm {others : List Value} (h : ∃ v ∈ operands, v.isUnknown = true)
    (perm : (operands.filter isUnknown).Perm (others.filter isUnknown)) :
    propagate operands = propagate others := by
  obtain ⟨v, member, isUnknown⟩ := h
  have moved : v ∈ others.filter Value.isUnknown :=
    perm.subset (List.mem_filter.mpr ⟨member, isUnknown⟩)
  obtain ⟨s, passed, members⟩ := propagate_unknown ⟨v, member, isUnknown⟩
  obtain ⟨t, otherPassed, otherMembers⟩ :=
    propagate_unknown ⟨v, List.mem_of_mem_filter moved, isUnknown⟩
  have kept (u : UnknownSet) : unknown u ∈ operands ↔ unknown u ∈ others := by
    have same := perm.mem_iff (a := unknown u)
    simpa only [List.mem_filter, Value.isUnknown, and_true] using same
  have same : s = t := UnknownSet.eq_of_members fun id => by
    rw [members, otherMembers]
    simp only [kept]
  rw [passed, otherPassed, same]

end Value

/-- Unknown sets are the strictly ascending lists of ids. They have the members that went into them
and are equal when these are the same, so operands propagate the same unknown in whatever order the
unknown ones among them come. -/
theorem unknownSets_canonical :
    (∀ ids, UnknownSet.Made ids ↔ ids.Pairwise (· < ·)) ∧
    (∀ ids id, id ∈ (UnknownSet.ofList ids).ids ↔ id ∈ ids) ∧
    (∀ s t : UnknownSet, (∀ id, id ∈ (s.union t).ids ↔ id ∈ s.ids ∨ id ∈ t.ids) ∧
      s.union t = t.union s ∧ s.union s = s ∧ ∀ u, (s.union t).union u = s.union (t.union u)) ∧
    (∀ (s : UnknownSet) id, s.contains id = true ↔ id ∈ s.ids) ∧
    (∀ s t : UnknownSet, s = t ↔ ∀ id, id ∈ s.ids ↔ id ∈ t.ids) ∧
    ∀ vs ws : List Value, (∃ v ∈ vs, v.isUnknown = true) →
      (vs.filter Value.isUnknown).Perm (ws.filter Value.isUnknown) →
      ∃ s, Value.propagate vs = some (.unknown s) ∧ Value.propagate ws = some (.unknown s) ∧
        ∀ id, id ∈ s.ids ↔ ∃ t, .unknown t ∈ vs ∧ id ∈ t.ids := by
  refine ⟨fun ids => UnknownSet.made_iff, fun ids id => UnknownSet.mem_sortIds ids,
    fun s t => ⟨fun id => UnknownSet.mem_union s t, s.union_comm t, s.union_self, s.union_assoc t⟩,
    UnknownSet.contains_iff, fun s t => ⟨fun same id => same ▸ Iff.rfl, UnknownSet.eq_of_members⟩,
    fun vs ws someUnknown perm => ?_⟩
  obtain ⟨s, passed, members⟩ := Value.propagate_unknown someUnknown
  exact ⟨s, passed, Value.propagate_perm someUnknown perm ▸ passed, members⟩

/-- Two unknowns around an error, and the same unknowns in the other order before a null. -/
theorem aroundError_propagates :
    let aroundError : List Value :=
      [.unknown (.ofList [5, 1, 3]), .noSuchField "f", .unknown (.ofList [2, 3, 9])]
    let beforeNull : List Value :=
      [.unknown (.ofList [9, 3, 2]), .unknown (.ofList [3, 1, 5]), .null]
    (∃ v ∈ aroundError, v.isUnknown = true) ∧
    (aroundError.filter Value.isUnknown).Perm (beforeNull.filter Value.isUnknown) ∧
    ∃ s, Value.propagate aroundError = some (.unknown s) ∧
      Value.propagate beforeNull = some (.unknown s) ∧ s.ids = [1, 2, 3, 5, 9] := by
  intro aroundError beforeNull
  obtain ⟨-, listed, unions, -, equal, propagated⟩ := unknownSets_canonical
  have left : UnknownSet.ofList [3, 1, 5] = .ofList [5, 1, 3] :=
    (equal _ _).mpr fun id => by
      rw [listed, listed]
      exact List.Perm.mem_iff (by decide)
  have right : UnknownSet.ofList [9, 3, 2] = .ofList [2, 3, 9] :=
    (equal _ _).mpr fun id => by
      rw [listed, listed]
      exact List.Perm.mem_iff (by decide)
  have someUnknown : ∃ v ∈ aroundError, v.isUnknown = true := ⟨_, List.mem_cons_self, rfl⟩
  have perm : (aroundError.filter Value.isUnknown).Perm (beforeNull.filter Value.isUnknown) := by
    simp only [beforeNull, left, right]
    exact .swap ..
  obtain ⟨s, passed, otherPassed, -⟩ := propagated aroundError beforeNull someUnknown perm
  have union : s = (UnknownSet.ofList [5, 1, 3]).union (.ofList [2, 3, 9]) :=
    Value.unknown.inj (Option.some.inj (passed.symm.trans rfl))
  have all : s = .ofList [1, 2, 3, 5, 9] := (equal _ _).mpr fun id => by
    rw [union, (unions _ _).1, listed, listed, listed]
    simp only [List.mem_cons, List.not_mem_nil, or_false]
    omega
  have ids : s.ids = [1, 2, 3, 5, 9] := all ▸ UnknownSet.sortIds_of_ascending (by decide)
  exact ⟨someUnknown, perm, s, passed, otherPassed, ids⟩

end ExprEngine
