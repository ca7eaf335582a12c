import ExprEngine.Environment
import ExprEngine.Proofs.Planning.Prepared
import ExprEngine.Proofs.Strictness.Events

/-!
# Propagation of failures

A node that no operand may fail in has the union of the unknowns among its operands as its value,
or else the first error. `Propagated` relates operands and value, and `strict_propagation` says it
of calls through strict overloads and of constructions, however they are planned.
-/

namespace ExprEngine

namespace Value

/-- The operands and the value of a strict operation: the union of the unknowns, or else the first
error. -/
structure Propagated (operands : List Value) (v : Value) : Prop where
  unknown : (∃ w ∈ operands, w.isUnknown = true) →
    ∃ s, v = .unknown s ∧ ∀ id, id ∈ s.ids ↔ ∃ t, .unknown t ∈ operands ∧ id ∈ t.ids
  error : (∀ w ∈ operands, w.isUnknown = false) → ∀ before e after,
    operands = before ++ .error e :: after → (∀ w ∈ before, w.isError = false) → v = .error e

variable {operands : List Value} {v : Value}

theorem strict_propagated (operands : List Value) (result : Value) :
    Propagated operands (strict operands result) where
  unknown := fun someUnknown => by
    obtain ⟨s, passed, members⟩ := propagate_unknown someUnknown
    exact ⟨s, by rw [strict, passed, Option.getD_some], members⟩
  error := by
    intro known before e after split regular
    have found : operands.find? isError = some (.error e) := by
      have none : before.find? isError = none :=
        List.find?_eq_none.mpr fun w member => by simp [regular w member]
      rw [split, List.find?_append, none]
      rfl
    simp only [strict, propagate, unknownOf_eq_none.mpr known, found, Option.getD_some]

/-- Nothing is said about operands that are regular. -/
theorem propagated_of_regular (regular : ∀ w ∈ operands, w.isFailure = false) (v : Value) :
    Propagated operands v := by
  have passed := strict_propagated operands v
  rwa [strict_regular regular] at passed

theorem propagated_pair {w : Value} (failed : v.isFailure = true) (regular : w.isFailure = false) :
    Propagated [v, w] v := by
  have passed := strict_propagated [v, w] null
  rwa [strict_failure failed regular] at passed

variable [HostObjects]

theorem called_propagated (id : Int) (function : String) {overloads : List Overload}
    (strict : ∀ o ∈ overloads, o.nonStrict = false) (args : List Value) :
    Propagated args (called id function overloads args) := by
  have allStrict : overloads.any Overload.nonStrict = false := by
    rw [List.any_eq_false]
    exact fun o member => by simp [strict o member]
  rw [called, allStrict]
  exact strict_propagated args _

theorem memberOf_propagated (id : Int) (items : List Value) (keys : List Key) (function : String)
    (overloads : List Overload) (elem : Value) :
    Propagated [elem, list items] (memberOf id items keys function overloads elem) := by
  unfold memberOf
  cases failed : elem.isFailure with
  | true => exact propagated_pair failed rfl
  | false =>
    refine propagated_of_regular ?_ _
    intro w member
    rcases List.mem_pair.mp member with rfl | rfl
    · exact failed
    · rfl

theorem searched_propagated (id : Int) (source : String) (pattern : Regex.Pattern)
    (function : String) (overloads : List Overload) (text : Value) :
    Propagated [text, string source] (searched id source pattern function overloads text) := by
  cases failed : text.isFailure with
  | true =>
    have kept : searched id source pattern function overloads text = text := by
      cases text <;> first | rfl | simp [isFailure] at failed
    rw [kept]
    exact propagated_pair failed rfl
  | false =>
    refine propagated_of_regular ?_ _
    intro w member
    rcases List.mem_pair.mp member with rfl | rfl
    · exact failed
    · rfl

end Value

namespace Plan

variable [HostObjects]

/-- Preparing a call keeps what it makes of failing operands, whatever overloads it may reach. -/
theorem prepareCall_propagated (provider : Provider) (id : Int) (function : String)
    {args : List Plan} {overloads : List Overload}
    (strict : ∀ o ∈ overloads, o.nonStrict = false) (everything : Bool) (scope : Scope) :
    Value.Propagated (args.map fun p => (eval provider p false scope).value)
      (eval provider (prepareCall id function args overloads) everything scope).value := by
  have plain : Value.Propagated (args.map fun p => (eval provider p false scope).value)
      (eval provider (call id function args overloads) everything scope).value := by
    rw [value_call]
    exact Value.called_propagated id function strict _
  unfold prepareCall
  split
  · exact plain
  · split
    · next operand constant =>
      split
      · next items known =>
        split
        · split
          · rw [value_membership, List.map_cons, List.map_singleton, value_of_asConst known]
            exact Value.memberOf_propagated id items _ function overloads _
          · exact plain
        · exact plain
      · next source known =>
        split
        · split
          · rw [value_search, List.map_cons, List.map_singleton, value_of_asConst known]
            exact Value.searched_propagated id source _ function overloads _
          · exact plain
        · exact plain
      · exact plain
    · exact plain

end Plan

namespace Planner

open Planning

section

variable [HostObjects]

open Plan hiding id

variable {c : Planner} {locals : List String} {e : Expr} {p : Plan} {operands : List Plan}

/-- Nodes that the failures of their operands pass through: calls that are answered by strict
overloads or by the target, and constructions. The operands are final plans, in the order in which
they are evaluated. -/
inductive Strict (c : Planner) (locals : List String) : Expr → List Plan → Prop where
  | call {id function args operands} (plain : operandCount? function = none)
      (strict : ∀ o ∈ c.reachable function operands.length, o.nonStrict = false)
      (planned : outcome (c.planAll args locals) = .ok operands) :
      Strict c locals (.call id function args) operands
  | member {id target function args receiver operands} (plain : operandCount? function = none)
      (strict : ∀ o ∈ c.reachable function (receiver :: operands).length, o.nonStrict = false)
      (targetPlanned : outcome (c.planExpr target locals) = .ok receiver)
      (planned : outcome (c.planAll args locals) = .ok operands) :
      Strict c locals (.member id target function args) (receiver :: operands)
  | list {id elements operands} (planned : outcome (c.planAll elements locals) = .ok operands) :
      Strict c locals (.list id elements) operands
  | mapping {id entries pairs} (planned : outcome (c.planKeyed entries locals) = .ok pairs) :
      Strict c locals (.mapping id entries) (pairs.flatMap fun p => [p.1, p.2])
  | object {id name full entries fields} (named : outcome (c.typeName id name) = .ok full)
      (planned : outcome (c.planFields full entries locals) = .ok fields) :
      Strict c locals (.object id name entries) (fields.map Prod.snd)

theorem finished_of_callPlan {id : Int} {function : String} {onTarget : Bool} {args : List Plan}
    (made : outcome (c.callPlan id function onTarget args) = .ok p) :
    p = c.finished (.call id function args (c.reachable function args.length)) := by
  rw [outcome_callPlan] at made
  split at made
  · cases made
  · split at made
    · cases made
    · exact (Except.ok.inj made).symm

theorem finished_call_propagated (id : Int) (function : String)
    (strict : ∀ o ∈ c.reachable function operands.length, o.nonStrict = false) (scope : Scope) :
    Value.Propagated (operands.map fun o => (o.eval c.provider false scope).value)
      ((c.finished (.call id function operands (c.reachable function operands.length))).eval
        c.provider false scope).value := by
  rcases value_finished_cases (c := c)
    (p := .call id function operands (c.reachable function operands.length)) rfl rfl scope with
    value | value
  · rw [value, value_call]
    exact Value.called_propagated id function strict _
  · rw [value]
    exact prepareCall_propagated c.provider id function strict false scope

/-- Failures pass through strict nodes, and no evaluation lets them reach the implementation of a
strict overload, the method of a receiver or the construction of an object. -/
theorem strict_propagation (c : Planner) :
    (∀ e locals operands p, c.Strict locals e operands →
      outcome (c.planExpr e locals) = .ok p → ∀ scope,
        Value.Propagated (operands.map fun o => (o.eval c.provider false scope).value)
          (p.eval c.provider false scope).value) ∧
      ∀ (p : Plan) (everything : Bool) (scope : Scope),
        ∀ event ∈ (p.eval c.provider everything scope).log, event.Regular := by
  refine ⟨fun e locals operands p node made scope => ?_,
    fun p everything scope => eval_regular c.provider p everything scope⟩
  cases node with
  | @call id function args operands plain strict planned =>
    simp only [planExpr, plain, outcome_bind, planned, Except.bind] at made
    rw [finished_of_callPlan made]
    exact finished_call_propagated id function strict scope
  | @member id target function args receiver operands plain strict targetPlanned planned =>
    simp only [planExpr, plain, outcome_bind, targetPlanned, planned, Except.bind] at made
    rw [finished_of_callPlan made]
    exact finished_call_propagated id function strict scope
  | @list id elements operands planned =>
    simp only [planExpr, outcome_bind, planned, Except.bind, outcome_finish] at made
    obtain rfl := Except.ok.inj made
    rw [value_finished rfl rfl rfl, value_list]
    exact Value.strict_propagated _ _
  | @mapping id entries pairs planned =>
    simp only [planExpr, outcome_bind, planned, Except.bind, outcome_finish] at made
    obtain rfl := Except.ok.inj made
    have values : (pairs.flatMap fun p => [p.1, p.2]).map
        (fun o => (o.eval c.provider false scope).value) =
        (pairs.map fun e => ((e.1.eval c.provider false scope).value,
          (e.2.eval c.provider false scope).value)).flatMap fun v => [v.1, v.2] := by
      rw [List.map_flatMap, List.flatMap_map]
      rfl
    rw [value_finished rfl rfl rfl, value_mapping, values]
    exact Value.strict_propagated _ _
  | @object id name full entries fields named planned =>
    simp only [planExpr, outcome_bind, named, planned, Except.bind, outcome_finish] at made
    obtain rfl := Except.ok.inj made
    have values : (fields.map Prod.snd).map (fun o => (o.eval c.provider false scope).value) =
        (fields.map fun f => (f.1, (f.2.eval c.provider false scope).value)).map Prod.snd := by
      rw [List.map_map, List.map_map]
      rfl
    rw [value_finished rfl rfl rfl, value_object, values]
    exact Value.strict_propagated _ _

end

attribute [local instance] HostObjects.silent

def sumWithFailure : Expr :=
  .call 5 "_+_" [.ident 1 "x", .call 4 "_/_" [.literal 2 (.int 1), .literal 3 (.int 0)]]

/-- Without `x`, the error of the division is passed over. -/
theorem sumWithFailure_unknown :
    let c := ({} : Environment).planner (.unchecked sumWithFailure)
    let scope := Scope.marked .empty [⟨"x", []⟩]
    ∃ operands p, c.Strict [] sumWithFailure operands ∧
      outcome (c.planExpr sumWithFailure []) = .ok p ∧
        (operands.map fun o => (o.eval c.provider false scope).value.isError) = [false, true] ∧
          (p.eval c.provider false scope).value.isUnknown = true := by
  intro c scope
  have failing : (outcome (c.planAll
      [.ident 1 "x", .call 4 "_/_" [.literal 2 (.int 1), .literal 3 (.int 0)]] [])).toOption.map
        (fun operands => operands.map fun o => ((o.eval c.provider false scope).value.isUnknown,
          (o.eval c.provider false scope).value.isError)) =
            some [(true, false), (false, true)] := by
    decide +kernel
  have strict : ∀ o ∈ c.reachable "_+_" 2, o.nonStrict = false := by decide +kernel
  have succeeds : (outcome (c.planExpr sumWithFailure [])).toOption.isSome = true := by
    decide +kernel
  cases planned : outcome (c.planAll
      [.ident 1 "x", .call 4 "_/_" [.literal 2 (.int 1), .literal 3 (.int 0)]] []) with
  | error e =>
    rw [planned] at failing
    cases failing
  | ok operands =>
    cases made : outcome (c.planExpr sumWithFailure []) with
    | error e =>
      rw [made] at succeeds
      cases succeeds
    | ok p =>
      rw [planned] at failing
      simp only [Except.toOption, Option.map_some, Option.some.injEq] at failing
      obtain _ | ⟨a, _ | ⟨b, _ | _⟩⟩ := operands
      · simp at failing
      · simp at failing
      · simp only [List.map_cons, List.map_nil, List.cons.injEq, Prod.mk.injEq, and_true] at failing
        obtain ⟨⟨unknown, regular⟩, -, isError⟩ := failing
        have node : c.Strict [] sumWithFailure [a, b] := .call rfl strict planned
        have propagated := (strict_propagation c).1 _ _ _ p node made scope
        obtain ⟨s, value, -⟩ := propagated.unknown ⟨_, List.mem_cons_self, unknown⟩
        exact ⟨[a, b], p, node, rfl, by simp [regular, isError], by rw [value]; rfl⟩
      · simp at failing

end Planner

end ExprEngine
