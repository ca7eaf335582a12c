import ExprEngine.Proofs.Planning.Exhaustion

/-!
# What expressions denote

An expression denotes a family of values in a family of scopes, if it has a plan with these values.
What calls, operators and loops denote follows from what their parts do.
-/

namespace ExprEngine

namespace CheckedExpr

/-- The node reads the variable of its own name: it is not resolved, or it is resolved to that name
and not marked as unknown. -/
def Keeps (checked : CheckedExpr) (scope : Scope) (name : String) (id : Int) : Prop :=
  checked.Silent id ∨ checked.Named name id ∧ ∀ p ∈ scope.patterns, p.name ≠ name

end CheckedExpr

namespace Planner

variable [HostObjects]

open Planning

open Plan hiding id

/-- The expression has a plan inside loops that bind `locals`, and these values in the scopes. -/
def Denotes (c : Planner) (locals : List String) (e : Expr) {ι : Type} (scope : ι → Scope)
    (value : ι → Value) : Prop :=
  ∃ p, outcome (c.planExpr e locals) = .ok p ∧
    ∀ i, (p.eval c.provider false (scope i)).value = value i

variable {c : Planner} {locals : List String} {ι : Type} {scope : ι → Scope} {a b g : Expr}
  {u v w : ι → Value} {id : Int} {function : String}

theorem Denotes.congr (denotes : c.Denotes locals a scope v) (same : ∀ i, v i = w i) :
    c.Denotes locals a scope w := by
  rwa [← funext same]

theorem outcome_literal (id : Int) (x : Value) :
    outcome (c.planExpr (.literal id x) locals) = .ok (c.finished (.const id x)) := by
  rw [planExpr, outcome_finish]

theorem outcome_ident (id : Int) (name : String) :
    outcome (c.planExpr (.ident id name) locals) =
      .ok (c.finished (c.identPlan locals id name)) := by
  rw [planExpr, outcome_finish]

theorem denotes_literal (x : Value) :
    c.Denotes locals (.literal id x) scope fun _ => x :=
  ⟨_, outcome_literal id x, fun i => value_finished rfl rfl rfl (scope i)⟩

theorem denotes_ident {name : String} (bound : name ∈ locals)
    (keeps : ∀ i, c.checked.Keeps (scope i) name id)
    (found : ∀ i, ((scope i).resolve name).value = some (v i)) :
    c.Denotes locals (.ident id name) scope v := by
  have planned : outcome (c.planExpr (.ident id name) locals) = _ := outcome_ident id name
  have made := planned_of_outcome c _ _ planned
  refine ⟨_, planned, fun i => ?_⟩
  rcases keeps i with silent | ⟨named, unmarked⟩
  · exact value_of_silent made silent bound (found i)
  · have none : (scope i).patterns.filter (·.name == name) = [] := by
      rw [List.filter_eq_nil_iff]
      intro p member
      simpa using unmarked p member
    rw [value_of_named made named (found i), none]
    rfl

theorem outcome_planAll_nil : outcome (c.planAll [] locals) = .ok [] := rfl

theorem outcome_planAll_cons {e : Expr} {rest : List Expr} {p : Plan} {ps : List Plan}
    (first : outcome (c.planExpr e locals) = .ok p)
    (others : outcome (c.planAll rest locals) = .ok ps) :
    outcome (c.planAll (e :: rest) locals) = .ok (p :: ps) := by
  rw [planAll, outcome_bind, first]
  simp only [Except.bind, outcome_bind, others]
  rfl

theorem outcome_call (plain : operandCount? function = none) {args : List Expr} {ps : List Plan}
    (planned : outcome (c.planAll args locals) = .ok ps)
    (reached : c.reachable function ps.length ≠ []) :
    outcome (c.planExpr (.call id function args) locals) =
      .ok (c.finished (.call id function ps (c.reachable function ps.length))) := by
  have registered : (c.registry.find function).isEmpty = false := by
    cases found : c.registry.find function with
    | nil =>
      rw [reachable, found] at reached
      exact absurd rfl reached
    | cons => rfl
  have takes : (c.reachable function ps.length).isEmpty = false := by
    simpa using reached
  rw [planExpr, plain]
  simp only [outcome_bind, planned, Except.bind]
  rw [outcome_callPlan, registered, takes]
  rfl

theorem outcome_combine {short : Bool} {p q : Plan}
    (named : function = if short then Operator.logicalOr else Operator.logicalAnd)
    (left : outcome (c.planExpr a locals) = .ok p) (right : outcome (c.planExpr b locals) = .ok q) :
    outcome (c.planExpr (.call id function [a, b]) locals) =
      .ok (c.finished (if short then .either id p q else .both id p q)) := by
  have args : outcome (c.planAll [a, b] locals) = .ok [p, q] :=
    outcome_planAll_cons left (outcome_planAll_cons right outcome_planAll_nil)
  subst named
  cases short with
  | false =>
    rw [planExpr]
    change outcome (c.planAll [a, b] locals >>= fun ps => _) = _
    rw [outcome_bind, args]
    exact outcome_finish c _
  | true =>
    rw [planExpr]
    change outcome (c.planAll [a, b] locals >>= fun ps => _) = _
    rw [outcome_bind, args]
    exact outcome_finish c _

theorem outcome_loop {range init condition step result : Expr} {iterVar accuVar : String}
    {o i w p r : Plan} (ranges : outcome (c.planExpr range locals) = .ok o)
    (starts : outcome (c.planExpr init locals) = .ok i)
    (goes : outcome (c.planExpr condition (iterVar :: accuVar :: locals)) = .ok w)
    (steps : outcome (c.planExpr step (iterVar :: accuVar :: locals)) = .ok p)
    (results : outcome (c.planExpr result (accuVar :: locals)) = .ok r) :
    outcome (c.planExpr (.loop id iterVar range accuVar init condition step result) locals) =
      .ok (c.finished (.loop id iterVar o accuVar i w p r)) := by
  rw [planExpr]
  simp only [outcome_bind, ranges, starts, goes, steps, results, Except.bind, outcome_finish]

theorem outcome_unary (plain : operandCount? function = none)
    (reached : c.reachable function 1 ≠ []) {p : Plan}
    (operand : outcome (c.planExpr a locals) = .ok p) :
    outcome (c.planExpr (.call id function [a]) locals) =
      .ok (c.finished (.call id function [p] (c.reachable function 1))) :=
  outcome_call plain (outcome_planAll_cons operand outcome_planAll_nil) reached

theorem denotes_unary (plain : operandCount? function = none)
    (reached : c.reachable function 1 ≠ []) (operand : c.Denotes locals a scope v) :
    c.Denotes locals (.call id function [a]) scope fun i =>
      Value.called id function (c.reachable function 1) [v i] := by
  obtain ⟨p, planned, value⟩ := operand
  refine ⟨_, outcome_unary plain reached planned, fun i => ?_⟩
  have prepared : (Plan.call id function [p] (c.reachable function 1)).prepare =
      .call id function [p] (c.reachable function 1) := by
    simp only [prepare, prepareCall, ite_self]
  rw [value_finished rfl rfl prepared, value_call, List.map_singleton, value]

theorem denotes_binary {extra : List Overload}
    (standard : c.registry = Registry.standard.addAll extra) (plain : operandCount? function = none)
    (reached : c.reachable function 2 ≠ []) (left : c.Denotes locals a scope v)
    (right : c.Denotes locals b scope w) :
    c.Denotes locals (.call id function [a, b]) scope fun i =>
      Value.called id function (c.reachable function 2) [v i, w i] := by
  obtain ⟨p, leftPlanned, leftValue⟩ := left
  obtain ⟨q, rightPlanned, rightValue⟩ := right
  have args : outcome (c.planAll [a, b] locals) = .ok [p, q] :=
    outcome_planAll_cons leftPlanned (outcome_planAll_cons rightPlanned outcome_planAll_nil)
  refine ⟨_, outcome_call plain args reached, fun i => ?_⟩
  have same : Same c.provider (c.finished (.call id function [p, q] (c.reachable function 2)))
      (.call id function [p, q] (c.reachable function 2)) :=
    finished_same rfl (fun _ _ known => by cases known)
      (prepareCall_same standard id function [p, q])
  refine (same.value (scope i)).trans ?_
  rw [value_call, List.map_cons, List.map_singleton, leftValue, rightValue]

theorem denotes_combine {short : Bool}
    (named : function = if short then Operator.logicalOr else Operator.logicalAnd)
    (left : c.Denotes locals a scope v) (right : c.Denotes locals b scope w) :
    c.Denotes locals (.call id function [a, b]) scope fun i =>
      Value.combine id short (v i) (w i) := by
  obtain ⟨p, leftPlanned, leftValue⟩ := left
  obtain ⟨q, rightPlanned, rightValue⟩ := right
  refine ⟨_, outcome_combine named leftPlanned rightPlanned, fun i => ?_⟩
  cases short with
  | false =>
    rw [if_neg Bool.false_ne_true, value_finished rfl rfl rfl, value_both, leftValue, rightValue]
  | true => rw [if_pos rfl, value_finished rfl rfl rfl, value_either, leftValue, rightValue]

theorem denotes_conditional (guard : c.Denotes locals g scope u)
    (whenTrue : c.Denotes locals a scope v) (whenFalse : c.Denotes locals b scope w) :
    c.Denotes locals (.call id Operator.conditional [g, a, b]) scope fun i =>
      Value.select id (u i) (v i) (w i) := by
  obtain ⟨o, guardPlanned, guardValue⟩ := guard
  obtain ⟨p, truePlanned, trueValue⟩ := whenTrue
  obtain ⟨q, falsePlanned, falseValue⟩ := whenFalse
  have args : outcome (c.planAll [g, a, b] locals) = .ok [o, p, q] :=
    outcome_planAll_cons guardPlanned
      (outcome_planAll_cons truePlanned (outcome_planAll_cons falsePlanned outcome_planAll_nil))
  have planned : outcome (c.planExpr (.call id Operator.conditional [g, a, b]) locals) =
      .ok (c.finished (.conditional id o p q)) := by
    rw [planExpr]
    change outcome (c.planAll [g, a, b] locals >>= fun ps => _) = _
    rw [outcome_bind, args]
    exact outcome_finish c _
  refine ⟨_, planned, fun i => ?_⟩
  have same : Same c.provider (c.finished (.conditional id o p q)) (.conditional id o p q) := by
    refine finished_same rfl (fun observes branch known => ?_) (.refl _)
    rcases branch_of_known known with rfl | rfl
    · exact isObserved_of_planned (planned_of_outcome c _ _ truePlanned) observes
    · exact isObserved_of_planned (planned_of_outcome c _ _ falsePlanned) observes
  refine (same.value (scope i)).trans ?_
  rw [value_conditional, guardValue, trueValue, falseValue]

theorem denotes_nil : c.Denotes locals (.list id []) scope fun _ => .list [] := by
  have planned : outcome (c.planExpr (.list id []) locals) = .ok (c.finished (.list id [])) := by
    rw [planExpr, outcome_bind]
    exact outcome_finish c _
  exact ⟨_, planned, fun i => by rw [value_finished rfl rfl rfl, value_list]; rfl⟩

theorem denotes_singleton (item : c.Denotes locals a scope v) :
    c.Denotes locals (.list id [a]) scope fun i => Value.strict [v i] (.list [v i]) := by
  obtain ⟨p, itemPlanned, value⟩ := item
  have planned : outcome (c.planExpr (.list id [a]) locals) = .ok (c.finished (.list id [p])) := by
    rw [planExpr, outcome_bind, outcome_planAll_cons itemPlanned outcome_planAll_nil]
    exact outcome_finish c _
  refine ⟨_, planned, fun i => ?_⟩
  rw [value_finished rfl rfl rfl, value_list, List.map_singleton, value]

end Planner

end ExprEngine
