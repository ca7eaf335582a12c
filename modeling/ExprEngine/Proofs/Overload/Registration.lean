import ExprEngine.Overload.Standard

/-!
# Registration

Adding overloads keeps those that are there, in front, and no two overloads of a name overlap.
`find_standard` says what the standard library holds under each of its names.
-/

namespace ExprEngine

namespace Registry

def Disjoint (r : Registry) : Prop :=
  r.overloads.Pairwise fun a b => a.id = b.id → a.overlaps b = false

theorem add_ok {r s : Registry} {o : Overload} (added : r.add o = .ok s) :
    o.id.isEmpty = false ∧ (r.find o.id).any (·.overlaps o) = false ∧
      s.overloads = r.overloads ++ [o] := by
  unfold add at added
  split at added
  · cases added
  · next named =>
    split at added
    · cases added
    · next apart =>
      obtain rfl := Except.ok.inj added
      exact ⟨by simpa using named, by simpa using apart, rfl⟩

theorem disjoint_add {r s : Registry} {o : Overload} (disjoint : r.Disjoint)
    (added : r.add o = .ok s) : s.Disjoint := by
  obtain ⟨-, apart, appended⟩ := add_ok added
  unfold Disjoint
  rw [appended, List.pairwise_append]
  refine ⟨disjoint, List.pairwise_singleton _ _, ?_⟩
  intro a member b single same
  obtain rfl := List.mem_singleton.mp single
  have found : a ∈ r.find b.id := by simp [find, member, same]
  exact Bool.eq_false_iff.mpr fun overlaps =>
    Bool.eq_false_iff.mp apart (List.any_eq_true.mpr ⟨a, found, overlaps⟩)

theorem addAll_nil (r : Registry) : r.addAll [] = r := rfl

theorem addAll_cons (r : Registry) (o : Overload) (os : List Overload) :
    r.addAll (o :: os) = (match r.add o with
      | .ok s => s
      | .error _ => r).addAll os := rfl

theorem disjoint_addAll {r : Registry} (disjoint : r.Disjoint) (os : List Overload) :
    (r.addAll os).Disjoint := by
  induction os generalizing r with
  | nil => exact disjoint
  | cons o rest ih =>
    rw [addAll_cons]
    cases added : r.add o with
    | ok s => exact ih (disjoint_add disjoint added)
    | error e => exact ih disjoint

theorem overloads_addAll (r : Registry) (os : List Overload) :
    ∃ more, (r.addAll os).overloads = r.overloads ++ more ∧ more.Sublist os := by
  induction os generalizing r with
  | nil => exact ⟨[], by simp [addAll], .slnil⟩
  | cons o rest ih =>
    rw [addAll_cons]
    cases added : r.add o with
    | ok s =>
      obtain ⟨more, appended, fewer⟩ := ih s
      refine ⟨o :: more, ?_, fewer.cons_cons o⟩
      rw [appended, (add_ok added).2.2, List.append_assoc, List.singleton_append]
    | error e =>
      obtain ⟨more, appended, fewer⟩ := ih r
      exact ⟨more, appended, fewer.cons o⟩

theorem addAll_of_nodup {r : Registry} {os : List Overload} (named : ∀ o ∈ os, o.id.isEmpty = false)
    (fresh : ∀ o ∈ os, o.id ∉ r.overloads.map (·.id)) (distinct : (os.map (·.id)).Nodup) :
    (r.addAll os).overloads = r.overloads ++ os := by
  induction os generalizing r with
  | nil => simp [addAll]
  | cons o rest ih =>
    obtain ⟨new, distinct⟩ := List.nodup_cons.mp distinct
    have none : r.find o.id = [] := by
      apply List.filter_eq_nil_iff.mpr
      intro other member same
      exact fresh o List.mem_cons_self (List.mem_map.mpr ⟨other, member, by simpa using same⟩)
    have added : r.add o = .ok ⟨r.overloads ++ [o]⟩ := by
      simp [add, named o List.mem_cons_self, none]
    rw [addAll_cons, added]
    refine (ih (fun p member => named p (List.mem_cons_of_mem _ member)) ?_ distinct).trans
      (by simp)
    intro p member
    simp only [List.map_append, List.map_cons, List.map_nil, List.mem_append, List.mem_singleton,
      not_or]
    exact ⟨fresh p (List.mem_cons_of_mem _ member),
      fun same => new (List.mem_map.mpr ⟨p, member, same⟩)⟩

theorem overloads_addAll_empty {os : List Overload} (named : ∀ o ∈ os, o.id.isEmpty = false)
    (distinct : (os.map (·.id)).Nodup) : (empty.addAll os).overloads = os := by
  rw [addAll_of_nodup named (fun o _ => List.not_mem_nil) distinct]
  rfl

/-- The names of the standard library, which are the same beside every host. -/
def standardIds : List String := (@Standard.overloads .silent).map (·.id)

theorem filter_id_of_nodup {os : List Overload} {o : Overload} (member : o ∈ os)
    (distinct : (os.map (·.id)).Nodup) : os.filter (·.id == o.id) = [o] := by
  induction os with
  | nil => cases member
  | cons p rest ih =>
    obtain ⟨new, distinct⟩ := List.nodup_cons.mp distinct
    rcases List.mem_cons.mp member with rfl | later
    · have others : rest.filter (·.id == o.id) = [] := by
        apply List.filter_eq_nil_iff.mpr
        intro q present same
        exact new (List.mem_map.mpr ⟨q, present, by simpa using same⟩)
      simp [others]
    · have other : p.id ≠ o.id := fun same => new (List.mem_map.mpr ⟨o, later, same.symm⟩)
      simpa [other] using ih later distinct

variable [HostObjects]

theorem standard_ids : Standard.overloads.map (·.id) = standardIds := rfl

theorem standard_ids_nodup : (Standard.overloads.map (·.id)).Nodup := by
  rw [standard_ids]
  decide +kernel

theorem standard_ids_named : ∀ o ∈ Standard.overloads, o.id.isEmpty = false := by
  have named : ∀ id ∈ standardIds, id.isEmpty = false := by decide +kernel
  exact fun o member => named o.id (standard_ids ▸ List.mem_map.mpr ⟨o, member, rfl⟩)

theorem standard_overloads : standard.overloads = Standard.overloads := by
  rw [standard, withStandard]
  exact overloads_addAll_empty standard_ids_named standard_ids_nodup

theorem disjoint_standard : standard.Disjoint := disjoint_addAll (r := empty) .nil _

theorem find_standard {o : Overload} (member : o ∈ Standard.overloads) :
    standard.find o.id = [o] := by
  rw [find, standard_overloads]
  exact filter_id_of_nodup member standard_ids_nodup

theorem find_extended {o : Overload} (member : o ∈ Standard.overloads) (extra : List Overload) :
    ∃ more, (standard.addAll extra).find o.id = o :: more ∧
      ∀ p ∈ more, p ∈ extra ∧ p.id = o.id ∧ o.overlaps p = false := by
  obtain ⟨more, appended, fewer⟩ := overloads_addAll standard extra
  refine ⟨more.filter (·.id == o.id), ?_, ?_⟩
  · have first := find_standard member
    unfold find at first ⊢
    rw [appended, List.filter_append, first, List.singleton_append]
  · intro p present
    obtain ⟨present, same⟩ := List.mem_filter.mp present
    have same : p.id = o.id := by simpa using same
    have apart := disjoint_addAll disjoint_standard extra
    unfold Disjoint at apart
    rw [appended, List.pairwise_append] at apart
    have old : o ∈ standard.overloads := standard_overloads ▸ member
    exact ⟨fewer.subset present, same, apart.2.2 o old p present same.symm⟩

end Registry

end ExprEngine
