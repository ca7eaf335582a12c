import ExprEngine.Proofs.Planning.Folding
import ExprEngine.Proofs.Partial.Completion

/-!
# Steady plans

The value of a steady plan in a scope covers its value in every completion of the scope. Plans of
steady parts are steady, where a call reaches strict overloads only. Loops are not among them: they
stop at errors that the scope itself may not have.
-/

namespace ExprEngine

variable [HostObjects]

namespace Attribute

def Steady (provider : Provider) (loose : Bool) (locals : List String) (a : Attribute) : Prop :=
  ∀ qs, (∀ x ∈ Plan.steps provider qs, x.Steady loose locals) →
    ∀ everything s t, Scope.Completes loose locals s t →
      (Plan.resolve provider (a.qualifyAll qs) everything s).value.Covers loose
        (Plan.resolve provider (a.qualifyAll qs) everything t).value

variable {provider : Provider} {loose : Bool} {locals : List String}

theorem absolute_steady (id : Int) {isLocal : Bool} {names : List String}
    (bound : isLocal = true → ∀ name ∈ names, name ∈ locals) :
    (absolute id isLocal names []).Steady provider loose locals := by
  intro qs steady everything s t completes
  rw [qualifyAll_absolute]
  exact Variable.resolve_covers (x := ⟨id, isLocal, names, Plan.steps provider qs⟩) steady completes
    provider bound

theorem ambiguous_steady (id : Int) (names : List String) :
    (ambiguous id names []).Steady provider loose locals := by
  intro qs steady everything s t completes
  rw [qualifyAll_ambiguous]
  exact Variable.resolveUnchecked_covers id names steady completes provider

theorem relative_steady (id : Int) {operand : Plan}
    (steady : ∀ s t, Scope.Completes loose locals s t →
      (operand.eval provider false s).value.Covers loose (operand.eval provider false t).value) :
    (relative id operand []).Steady provider loose locals := by
  intro qs steps everything s t completes
  rw [qualifyAll_relative, Plan.value_relative, Plan.value_relative]
  exact Step.walk_covers steps completes (steady s t completes)

theorem conditional_steady (id : Int) {guard : Plan} {whenTrue whenFalse : Attribute}
    (guarded : ∀ s t, Scope.Completes loose locals s t →
      (guard.eval provider false s).value.Covers loose (guard.eval provider false t).value)
    (first : whenTrue.Steady provider loose locals)
    (second : whenFalse.Steady provider loose locals) :
    (conditional id guard whenTrue whenFalse).Steady provider loose locals := by
  intro qs steps everything s t completes
  rw [qualifyAll_conditional, Plan.value_conditionalAttribute, Plan.value_conditionalAttribute]
  exact Value.select_covers id (guarded s t completes) (first qs steps everything s t completes)
    (second qs steps everything s t completes)

theorem Steady.qualify {a : Attribute} (steady : a.Steady provider loose locals) {q : Qualifier}
    (step : ∀ x ∈ Plan.steps provider [q], x.Steady loose locals) :
    (a.qualify q).Steady provider loose locals := by
  intro qs steps everything s t completes
  rw [← qualifyAll_cons]
  refine steady (q :: qs) (fun x member => ?_) everything s t completes
  rw [Plan.steps_cons] at member
  exact (List.mem_append.mp member).elim (step x) (steps x)

end Attribute

namespace Plan

/-- The plan covers its value in every completion, and so does what is selected from it. -/
structure Steady (provider : Provider) (loose : Bool) (locals : List String)
    (p : Plan) : Prop where
  value : ∀ everything s t, Scope.Completes loose locals s t →
    (p.eval provider everything s).value.Covers loose (p.eval provider everything t).value
  selected : p.toAttribute.Steady provider loose locals

variable {provider : Provider} {loose : Bool} {locals : List String} {p q r : Plan}

theorem Steady.of_value (plain : p.toAttribute = .relative p.id p [])
    (value : ∀ everything s t, Scope.Completes loose locals s t →
      (p.eval provider everything s).value.Covers loose (p.eval provider everything t).value) :
    p.Steady provider loose locals where
  value
  selected := by
    rw [plain]
    exact Attribute.relative_steady p.id (value false)

theorem attr_steady (id : Int) {a : Attribute} (steady : a.Steady provider loose locals) :
    (attr id a).Steady provider loose locals where
  value := steady [] (by simp [steps])
  selected := steady

theorem const_steady (id : Int) (v : Value) : (const id v).Steady provider loose locals :=
  .of_value rfl fun _ _ _ _ => .refl loose v

theorem both_steady (id : Int) (left : p.Steady provider loose locals)
    (right : q.Steady provider loose locals) : (both id p q).Steady provider loose locals :=
  .of_value rfl fun _ s t completes => by
    rw [value_both, value_both]
    exact Value.combine_covers id false (left.value false s t completes)
      (right.value false s t completes)

theorem either_steady (id : Int) (left : p.Steady provider loose locals)
    (right : q.Steady provider loose locals) : (either id p q).Steady provider loose locals :=
  .of_value rfl fun _ s t completes => by
    rw [value_either, value_either]
    exact Value.combine_covers id true (left.value false s t completes)
      (right.value false s t completes)

theorem conditional_steady (id : Int) (guard : p.Steady provider loose locals)
    (whenTrue : q.Steady provider loose locals) (whenFalse : r.Steady provider loose locals) :
    (conditional id p q r).Steady provider loose locals where
  value _ s t completes := by
    rw [value_conditional, value_conditional]
    exact Value.select_covers id (guard.value false s t completes)
      (whenTrue.value false s t completes) (whenFalse.value false s t completes)
  selected := Attribute.conditional_steady id (guard.value false) whenTrue.selected
    whenFalse.selected

theorem presence_steady (id : Int) (field : String) (access : Option (String × FieldAccess))
    (operand : p.Steady provider loose locals) :
    (presence id p field access).Steady provider loose locals :=
  .of_value rfl fun _ s t completes => by
    rw [value_presence, value_presence]
    exact Value.testField_covers id field access (operand.value false s t completes)

theorem qualify_field_steady (id : Int) (field : String) (access : Option (String × FieldAccess))
    (operand : p.Steady provider loose locals) :
    (p.qualify id (.field id field access)).Steady provider loose locals :=
  attr_steady id <| operand.selected.qualify fun x member => by
    obtain rfl := List.mem_singleton.mp member
    exact fun s t _ v => .refl loose _

theorem indexed_steady (id : Int) (operand : p.Steady provider loose locals)
    (key : q.Steady provider loose locals) : (p.indexed id q).Steady provider loose locals := by
  apply attr_steady id
  apply operand.selected.qualify
  split
  · intro x member
    obtain rfl := List.mem_singleton.mp member
    exact fun s t _ v => .refl loose _
  · intro x member
    obtain rfl := List.mem_singleton.mp member
    exact fun s t completes v => Value.index_covers v (key.value false s t completes)

theorem map_value_covers {ps : List Plan} (steady : ∀ p ∈ ps, p.Steady provider loose locals)
    {s t : Scope} (completes : Scope.Completes loose locals s t) :
    List.Forall₂ (Value.Covers loose) (ps.map fun p => (p.eval provider false s).value)
      (ps.map fun p => (p.eval provider false t).value) := by
  rw [List.forall₂_map_left_iff, List.forall₂_map_right_iff, List.forall₂_same]
  exact fun p member => (steady p member).value false s t completes

theorem call_steady (id : Int) (function : String) {args : List Plan} {overloads : List Overload}
    (strict : overloads.any Overload.nonStrict = false)
    (steady : ∀ p ∈ args, p.Steady provider loose locals) :
    (call id function args overloads).Steady provider loose locals :=
  .of_value rfl fun _ s t completes => by
    rw [value_call, value_call]
    exact Value.called_covers id function strict (map_value_covers steady completes)

theorem list_steady (id : Int) {elements : List Plan}
    (steady : ∀ p ∈ elements, p.Steady provider loose locals) :
    (list id elements).Steady provider loose locals :=
  .of_value rfl fun _ s t completes => by
    rw [value_list, value_list]
    exact Value.strict_covers (map_value_covers steady completes) Value.list

omit [HostObjects] in
/-- Entries are equal where all of their parts are, unless some part fails. -/
theorem strict_map_covers {α β : Type} {entries : List α} {s t : Scope} (parts : β → List Value)
    (value : Scope → α → β) (result : List β → Value)
    (covers : ∀ e ∈ entries,
      List.Forall₂ (Value.Covers loose) (parts (value s e)) (parts (value t e)))
    (inj : ∀ a b, parts a = parts b → (∃ e, a = value s e ∧ b = value t e) → a = b) :
    (Value.strict ((entries.map (value s)).flatMap parts) (result (entries.map (value s)))).Covers
      loose
      (Value.strict ((entries.map (value t)).flatMap parts) (result (entries.map (value t)))) := by
  have part : ∀ scope e v, e ∈ entries → v ∈ parts (value scope e) →
      v ∈ (entries.map (value scope)).flatMap parts := fun scope e v member part =>
    List.mem_flatMap.mpr ⟨value scope e, List.mem_map.mpr ⟨e, member, rfl⟩, part⟩
  by_cases same : ∀ e ∈ entries, value s e = value t e
  · rw [List.map_congr_left same]
    exact .refl loose _
  · simp only [not_forall] at same
    obtain ⟨e, member, different⟩ := same
    rcases Value.eq_of_covers (covers e member) with ⟨v, known, unknown⟩ | equal | ⟨isLoose, failed⟩
    · exact .inl (Value.strict_unknown ⟨v, part s e v member known, unknown⟩ _)
    · exact absurd (inj _ _ equal ⟨e, rfl, rfl⟩) different
    · refine .of_failure isLoose (failed.imp ?_ ?_)
      · exact fun ⟨v, known, failed⟩ =>
          Value.strict_isFailure ⟨v, part s e v member known, failed⟩ _
      · exact fun ⟨v, known, failed⟩ =>
          Value.strict_isFailure ⟨v, part t e v member known, failed⟩ _

theorem mapping_steady (id : Int) {entries : List (Plan × Plan)}
    (steady : ∀ e ∈ entries,
      e.1.Steady provider loose locals ∧ e.2.Steady provider loose locals) :
    (mapping id entries).Steady provider loose locals :=
  .of_value rfl fun _ s t completes => by
    rw [value_mapping, value_mapping]
    refine strict_map_covers (fun p : Value × Value => [p.1, p.2])
      (fun scope (e : Plan × Plan) =>
        ((eval provider e.1 false scope).value, (eval provider e.2 false scope).value))
      (fun pairs => (Value.mapOf pairs).withExprId id) (fun e member => ?_) fun a b same _ => ?_
    · obtain ⟨keys, values⟩ := steady e member
      exact .cons (keys.value false s t completes) (.cons (values.value false s t completes) .nil)
    · simpa [Prod.ext_iff] using same

theorem object_steady (id : Int) (typeName : String) {fields : List (String × Plan)}
    (steady : ∀ f ∈ fields, f.2.Steady provider loose locals) :
    (object id typeName fields).Steady provider loose locals :=
  .of_value rfl fun _ s t completes => by
    rw [value_object, value_object]
    simp only [List.map_eq_flatMap (f := Prod.snd)]
    refine strict_map_covers (fun p : String × Value => [p.2])
      (fun scope (f : String × Plan) => (f.1, (eval provider f.2 false scope).value))
      (fun values => (provider.construct typeName values).withExprId id) (fun f member => ?_) ?_
    · exact .cons ((steady f member).value false s t completes) .nil
    · rintro _ _ same ⟨f, rfl, rfl⟩
      simpa using same

theorem prepareCall_steady (id : Int) (function : String) {args : List Plan}
    {overloads : List Overload} (strict : overloads.any Overload.nonStrict = false)
    (steady : ∀ p ∈ args, p.Steady provider loose locals) :
    (prepareCall id function args overloads).Steady provider loose locals := by
  have plain : (call id function args overloads).Steady provider loose locals :=
    call_steady id function strict steady
  unfold prepareCall
  split
  · exact plain
  · split
    · next operand constant =>
      have first := steady operand List.mem_cons_self
      split
      · split
        · split
          · refine .of_value rfl fun everything s t completes => ?_
            rw [value_membership, value_membership]
            exact Value.memberOf_covers id _ _ function overloads (first.value false s t completes)
          · exact plain
        · exact plain
      · split
        · split
          · refine .of_value rfl fun everything s t completes => ?_
            rw [value_search, value_search]
            exact Value.searched_covers id _ _ function overloads (first.value false s t completes)
          · exact plain
        · exact plain
      · exact plain
    · exact plain

theorem Steady.decorate (steady : p.Steady provider loose locals) (options : PlanOptions) :
    (p.decorate options).Steady provider loose locals where
  value everything s t completes := by
    obtain ⟨flag, same⟩ := @value_decorate_some provider _ options p everything
    rw [same, same]
    exact steady.value flag s t completes
  selected := by
    rw [toAttribute_decorate]
    exact steady.selected

end Plan

namespace Planner

open Plan

variable {c : Planner} {loose : Bool} {locals : List String}

theorem finished_steady {p : Plan} (steady : p.Steady c.provider loose locals)
    (branches : ∀ branch, p.knownBranch? = some branch → branch.Steady c.provider loose locals)
    (prepared : p.prepare.Steady c.provider loose locals) :
    (c.finished p).Steady c.provider loose locals := by
  unfold finished
  apply Steady.decorate
  split
  · rcases fold_cases c.provider p with ⟨branch, known, folded⟩ | ⟨-, -, folded⟩ | ⟨-, -, folded⟩ |
      ⟨-, folded⟩
    · rw [folded]
      exact branches branch known
    · rw [folded]
      exact const_steady _ _
    · rw [folded]
      exact steady
    · rw [folded]
      exact prepared
  · exact steady

theorem identPlan_steady (id : Int) (name : String) :
    (c.finished (c.identPlan locals id name)).Steady c.provider loose locals := by
  unfold identPlan
  split
  · exact finished_steady (const_steady _ _) (fun _ known => by cases known) (const_steady _ _)
  · next full _ _ _ =>
    have steady : (Plan.attr id (.absolute id false [full] [])).Steady c.provider loose locals :=
      attr_steady id (Attribute.absolute_steady id fun isLocal => by cases isLocal)
    exact finished_steady steady (fun _ known => by cases known) steady
  · split
    · next bound =>
      have steady : (Plan.attr id (.absolute id true [name] [])).Steady c.provider loose locals :=
        attr_steady id (Attribute.absolute_steady id fun _ other member =>
          List.mem_singleton.mp member ▸ bound)
      exact finished_steady steady (fun _ known => by cases known) steady
    · have steady :
          (Plan.attr id (.ambiguous id (c.candidates name) [])).Steady c.provider loose locals :=
        attr_steady id (Attribute.ambiguous_steady id _)
      exact finished_steady steady (fun _ known => by cases known) steady

end Planner

end ExprEngine
