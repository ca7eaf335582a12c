import ExprEngine.Proofs.Attribution.Steps
import ExprEngine.Proofs.Planning.Congruence

/-!
# Attributed plans

A plan is attributed if its id is that of a node and its values are attributed in every attributed
scope, with and without more steps. Plans of attributed parts are attributed, and loops are, because
no iteration loses the property of the accumulator. Folding and wrapping keep it.
-/

namespace ExprEngine

/-- What conditions and steps keep of the accumulator, a loop keeps to its end, where the end may be
an error. -/
theorem iterate_keeps {P : Value → Prop} {everything : Bool}
    {condition step : Value → Value → Run Value} {elements : List Value}
    (conditions : ∀ accu x, P accu → x ∈ elements → P (condition accu x).value)
    (steps : ∀ accu x, P accu → x ∈ elements → P (step accu x).value) {accu : Value}
    (start : P accu) :
    (∃ last, (iterate everything condition step elements accu).value = .ok last ∧ P last) ∨
      ∃ e, (iterate everything condition step elements accu).value = .error e ∧ P e := by
  induction elements generalizing accu with
  | nil => exact .inl ⟨accu, rfl, start⟩
  | cons x rest ih =>
    rw [value_iterate_cons]
    split
    · exact .inr ⟨_, rfl, conditions accu x start List.mem_cons_self⟩
    · split
      · exact .inl ⟨accu, rfl, start⟩
      · have next : P (step accu x).value := steps accu x start List.mem_cons_self
        split
        · exact .inr ⟨_, rfl, next⟩
        · exact ih (fun v y kept member => conditions v y kept (List.mem_cons_of_mem _ member))
            (fun v y kept member => steps v y kept (List.mem_cons_of_mem _ member)) next

variable [HostObjects] [TrustedObjects] {provider : Provider} {nodes : List Int} {id : Int}

namespace Attribute

/-- What the attribute leads to is attributed, also after more steps. -/
def Attributed (provider : Provider) (nodes : List Int) (a : Attribute) : Prop :=
  ∀ qs, (∀ x ∈ Plan.steps provider qs, x.Attributed nodes) →
    ∀ everything (s : Scope), s.Attributed nodes →
      (Plan.resolve provider (a.qualifyAll qs) everything s).value.Attributed nodes
        (s.patterns ≠ [])

theorem absolute_attributed (fresh : provider.Fresh) (node : id ∈ nodes) (isLocal : Bool)
    (names : List String) : (absolute id isLocal names []).Attributed provider nodes := by
  intro qs steps everything s scope
  rw [qualifyAll_absolute]
  exact Variable.resolve_attributed (x := ⟨id, isLocal, names, Plan.steps provider qs⟩)
    ⟨node, steps⟩ fresh scope

theorem ambiguous_attributed (fresh : provider.Fresh) (node : id ∈ nodes) (names : List String) :
    (ambiguous id names []).Attributed provider nodes := by
  intro qs steps everything s scope
  rw [qualifyAll_ambiguous]
  exact Variable.resolveUnchecked_attributed node names steps fresh scope

theorem relative_attributed {operand : Plan}
    (value : ∀ s : Scope, s.Attributed nodes →
      (operand.eval provider false s).value.Attributed nodes (s.patterns ≠ [])) :
    (relative id operand []).Attributed provider nodes := by
  intro qs steps everything s scope
  rw [qualifyAll_relative, Plan.value_relative]
  exact Step.walk_attributed scope steps (value s scope)

theorem conditional_attributed (node : id ∈ nodes) {guard : Plan} {whenTrue whenFalse : Attribute}
    (guarded : ∀ s : Scope, s.Attributed nodes →
      (guard.eval provider false s).value.Attributed nodes (s.patterns ≠ []))
    (first : whenTrue.Attributed provider nodes) (second : whenFalse.Attributed provider nodes) :
    (conditional id guard whenTrue whenFalse).Attributed provider nodes := by
  intro qs steps everything s scope
  rw [qualifyAll_conditional, Plan.value_conditionalAttribute]
  exact Value.select_attributed (guarded s scope) (first qs steps everything s scope)
    (second qs steps everything s scope) node

theorem Attributed.qualify {a : Attribute} (attributed : a.Attributed provider nodes)
    {q : Qualifier} (step : ∀ x ∈ Plan.steps provider [q], x.Attributed nodes) :
    (a.qualify q).Attributed provider nodes := by
  intro qs steps everything s scope
  rw [← qualifyAll_cons]
  refine attributed (q :: qs) (fun x member => ?_) everything s scope
  rw [Plan.steps_cons] at member
  exact (List.mem_append.mp member).elim (step x) (steps x)

end Attribute

namespace Plan

structure Attributed (provider : Provider) (nodes : List Int) (p : Plan) : Prop where
  node : p.id ∈ nodes
  value : ∀ everything (s : Scope), s.Attributed nodes →
    (p.eval provider everything s).value.Attributed nodes (s.patterns ≠ [])
  selected : p.toAttribute.Attributed provider nodes

variable {p q r : Plan}

theorem Attributed.of_value (plain : p.toAttribute = .relative p.id p []) (node : p.id ∈ nodes)
    (value : ∀ everything (s : Scope), s.Attributed nodes →
      (p.eval provider everything s).value.Attributed nodes (s.patterns ≠ [])) :
    p.Attributed provider nodes where
  node
  value
  selected := by
    rw [plain]
    exact Attribute.relative_attributed (value false)

theorem Attributed.of_same (same : Same provider p q) (single : p.isLoop = false)
    (node : p.id ∈ nodes) (attributed : q.Attributed provider nodes) :
    p.Attributed provider nodes where
  node
  value everything s scope := by
    rw [value_everything single everything false, same.value]
    exact attributed.value false s scope
  selected qs steps everything s scope := by
    rw [same.selected qs qs (steps_same_refl provider qs)]
    exact attributed.selected qs steps everything s scope

theorem const_attributed (node : id ∈ nodes) {v : Value} (value : v.Attributed nodes False) :
    (const id v).Attributed provider nodes :=
  .of_value rfl node fun _ _ _ => value.mono False.elim

theorem attr_attributed (node : id ∈ nodes) {a : Attribute}
    (attributed : a.Attributed provider nodes) : (attr id a).Attributed provider nodes where
  node
  value := attributed [] (by simp [steps])
  selected := attributed

theorem both_attributed (node : id ∈ nodes) (left : p.Attributed provider nodes)
    (right : q.Attributed provider nodes) : (both id p q).Attributed provider nodes :=
  .of_value rfl node fun _ s scope => by
    rw [value_both]
    exact Value.combine_attributed false (left.value false s scope) (right.value false s scope) node

theorem either_attributed (node : id ∈ nodes) (left : p.Attributed provider nodes)
    (right : q.Attributed provider nodes) : (either id p q).Attributed provider nodes :=
  .of_value rfl node fun _ s scope => by
    rw [value_either]
    exact Value.combine_attributed true (left.value false s scope) (right.value false s scope) node

theorem conditional_attributed (node : id ∈ nodes) (guard : p.Attributed provider nodes)
    (whenTrue : q.Attributed provider nodes) (whenFalse : r.Attributed provider nodes) :
    (conditional id p q r).Attributed provider nodes where
  node
  value _ s scope := by
    rw [value_conditional]
    exact Value.select_attributed (guard.value false s scope) (whenTrue.value false s scope)
      (whenFalse.value false s scope) node
  selected := Attribute.conditional_attributed node (guard.value false) whenTrue.selected
    whenFalse.selected

theorem presence_attributed (node : id ∈ nodes) (field : String)
    (access : Option (String × FieldAccess)) (operand : p.Attributed provider nodes) :
    (presence id p field access).Attributed provider nodes :=
  .of_value rfl node fun _ s scope => by
    rw [value_presence]
    exact Value.testField_attributed (operand.value false s scope) field access node

theorem qualify_field_attributed [TrustedObjects.Sound] (node : id ∈ nodes) (field : String)
    {access : Option (String × FieldAccess)}
    (fresh : ∀ typeName a, access = some (typeName, a) →
      ∀ w : Value, w.isWhole = true → (a.get w).Fresh) (operand : p.Attributed provider nodes) :
    (p.qualify id (.field id field access)).Attributed provider nodes := by
  apply attr_attributed node
  apply operand.selected.qualify
  intro x member
  obtain rfl := List.mem_singleton.mp member
  refine ⟨node, fun s _ => .whole rfl, fun s _ v whole => ?_⟩
  exact (Value.readField_fresh whole field fresh).attributed node

theorem indexed_attributed [TrustedObjects.Sound] (node : id ∈ nodes)
    (operand : p.Attributed provider nodes) (key : q.Attributed provider nodes) :
    (p.indexed id q).Attributed provider nodes := by
  apply attr_attributed node
  apply operand.selected.qualify
  split
  · next k constant =>
    have known : ∀ s : Scope, s.Attributed nodes → k.Attributed nodes (s.patterns ≠ []) := by
      intro s scope
      have value := key.value false s scope
      rwa [value_of_asConst constant] at value
    intro x member
    obtain rfl := List.mem_singleton.mp member
    refine ⟨node, known, fun s scope v whole => ?_⟩
    change ((v.indexConstant k).withExprId id).Attributed nodes _
    rw [Value.indexConstant_eq]
    exact Value.index_attributed (.whole whole) (known s scope) node
  · intro x member
    obtain rfl := List.mem_singleton.mp member
    exact ⟨node, key.value false, fun s scope v whole =>
      Value.index_attributed (.whole whole) (key.value false s scope) node⟩

theorem map_value_attributed {ps : List Plan} (attributed : ∀ p ∈ ps, p.Attributed provider nodes)
    {s : Scope} (scope : s.Attributed nodes) :
    ∀ v ∈ ps.map fun p => (p.eval provider false s).value,
      v.Attributed nodes (s.patterns ≠ []) := by
  intro v member
  obtain ⟨p, listed, rfl⟩ := List.mem_map.mp member
  exact (attributed p listed).value false s scope

theorem list_attributed (node : id ∈ nodes) {elements : List Plan}
    (attributed : ∀ p ∈ elements, p.Attributed provider nodes) :
    (list id elements).Attributed provider nodes :=
  .of_value rfl node fun _ s scope => by
    rw [value_list]
    exact Value.list_attributed (map_value_attributed attributed scope)

theorem mapping_attributed (node : id ∈ nodes) {entries : List (Plan × Plan)}
    (attributed : ∀ e ∈ entries, e.1.Attributed provider nodes ∧ e.2.Attributed provider nodes) :
    (mapping id entries).Attributed provider nodes :=
  .of_value rfl node fun _ s scope => by
    rw [value_mapping]
    refine Value.mapOf_attributed node fun pair member => ?_
    obtain ⟨e, listed, rfl⟩ := List.mem_map.mp member
    obtain ⟨key, value⟩ := attributed e listed
    exact ⟨key.value false s scope, value.value false s scope⟩

theorem object_attributed (fresh : provider.Fresh) (node : id ∈ nodes) (typeName : String)
    {fields : List (String × Plan)} (attributed : ∀ f ∈ fields, f.2.Attributed provider nodes) :
    (object id typeName fields).Attributed provider nodes :=
  .of_value rfl node fun _ s scope => by
    rw [value_object]
    refine Value.strict_attributed (fun v member => ?_) fun whole => ?_
    · obtain ⟨built, among, rfl⟩ := List.mem_map.mp member
      obtain ⟨f, listed, rfl⟩ := List.mem_map.mp among
      exact (attributed f listed).value false s scope
    · have built := fresh.construct typeName _ fun f member =>
        whole f.2 (List.mem_map.mpr ⟨f, member, rfl⟩)
      exact built.attributed node

theorem loop_attributed (node : id ∈ nodes) {iterVar accuVar : String}
    {range init condition step result : Plan} (ranged : range.Attributed provider nodes)
    (started : init.Attributed provider nodes) (checked : condition.Attributed provider nodes)
    (stepped : step.Attributed provider nodes) (ended : result.Attributed provider nodes) :
    (loop id iterVar range accuVar init condition step result).Attributed provider nodes := by
  refine .of_value rfl node fun everything s scope => ?_
  have first := ranged.value false s scope
  rw [value_loop]
  simp only
  split
  · exact first
  · next regular =>
    have whole := first.isWhole (by simpa using regular)
    cases found : (eval provider range false s).value.elements? with
    | none => exact (Value.failure_fresh _ _).attributed ranged.node
    | some elements =>
      have element := Value.elements_whole whole found
      have iteration : ∀ accu x : Value, accu.Attributed nodes (s.patterns ≠ []) → x ∈ elements →
          (inside s accuVar iterVar accu x).Attributed nodes := fun accu x accumulated member =>
        (scope.frame accuVar accumulated).frame iterVar (.whole (element x member))
      have kept := @iterate_keeps (fun v => v.Attributed nodes (s.patterns ≠ [])) everything
        (fun accu x => eval provider condition false (inside s accuVar iterVar accu x))
        (fun accu x => eval provider step false (inside s accuVar iterVar accu x)) elements
        (fun accu x accumulated member =>
          checked.value false _ (iteration accu x accumulated member))
        (fun accu x accumulated member =>
          stepped.value false _ (iteration accu x accumulated member))
        _ (started.value false s scope)
      rcases kept with ⟨last, ends, accumulated⟩ | ⟨e, ends, failed⟩
      · simp only [ends]
        exact ended.value false _ (scope.frame accuVar accumulated)
      · simp only [ends]
        exact failed

theorem Attributed.decorate (attributed : p.Attributed provider nodes) (options : PlanOptions) :
    (p.decorate options).Attributed provider nodes where
  node := by
    rw [id_decorate]
    exact attributed.node
  value everything s scope := by
    obtain ⟨flag, same⟩ := @value_decorate_some provider _ options p everything
    rw [same]
    exact attributed.value flag s scope
  selected := by
    rw [toAttribute_decorate]
    exact attributed.selected

end Plan

namespace Planner

open Plan hiding id

variable {c : Planner} {p q r : Plan}

theorem finished_attributed (attributed : p.Attributed c.provider nodes)
    (branches : ∀ branch, p.knownBranch? = some branch → branch.Attributed c.provider nodes)
    (prepared : p.prepare.Attributed c.provider nodes) :
    (c.finished p).Attributed c.provider nodes := by
  unfold finished
  apply Attributed.decorate
  split
  · rcases fold_cases c.provider p with ⟨branch, known, folded⟩ | ⟨-, -, folded⟩ | ⟨-, -, folded⟩ |
      ⟨-, folded⟩
    · rw [folded]
      exact branches branch known
    · rw [folded]
      have empty : Scope.empty.Attributed nodes := fun _ _ found => by cases found
      have value := attributed.value false .empty empty
      exact const_attributed attributed.node (value.mono fun marked => marked rfl)
    · rw [folded]
      exact attributed
    · rw [folded]
      exact prepared
  · exact attributed

theorem finished_plain_attributed (leaf : p.knownBranch? = none) (plain : p.prepare = p)
    (attributed : p.Attributed c.provider nodes) : (c.finished p).Attributed c.provider nodes := by
  refine finished_attributed attributed (fun branch known => ?_) (by rwa [plain])
  rw [leaf] at known
  cases known

theorem finished_conditional_attributed (node : id ∈ nodes) (guard : p.Attributed c.provider nodes)
    (whenTrue : q.Attributed c.provider nodes) (whenFalse : r.Attributed c.provider nodes) :
    (c.finished (.conditional id p q r)).Attributed c.provider nodes := by
  have attributed := conditional_attributed node guard whenTrue whenFalse
  refine finished_attributed attributed (fun branch known => ?_) attributed
  rcases branch_of_known known with rfl | rfl
  · exact whenTrue
  · exact whenFalse

theorem finished_call_attributed [TrustedObjects.Sound] (standard : c.registry = Registry.standard)
    (node : id ∈ nodes) (function : String) {args : List Plan}
    (attributed : ∀ p ∈ args, p.Attributed c.provider nodes) :
    (c.finished (.call id function args (c.reachable function args.length))).Attributed c.provider
      nodes := by
  have plain : (Plan.call id function args (c.reachable function args.length)).Attributed c.provider
      nodes := by
    refine .of_value rfl node fun _ s scope => ?_
    have called := Value.called_attributed function node (map_value_attributed attributed scope)
    rw [List.length_map] at called
    rwa [value_call, reachable, standard]
  refine finished_attributed plain (fun _ known => by cases known) ?_
  have first : c.registry = Registry.standard.addAll [] := by rw [standard, Registry.addAll_nil]
  obtain ⟨single, named, -, -⟩ :=
    prepareCall_form id function args (c.reachable function args.length)
  have kept : (prepareCall id function args (c.reachable function args.length)).id ∈ nodes := by
    rwa [named]
  exact .of_same (prepareCall_same first id function args) single kept plain

end Planner

end ExprEngine
