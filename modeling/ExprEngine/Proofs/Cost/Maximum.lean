import ExprEngine.Environment
import ExprEngine.Proofs.Cost.Plans
import ExprEngine.Proofs.Overload.Registration

/-!
# Greatest work

The maximal cost of a program bounds the work of each of its evaluations. Exhaustive programs keep
to it as long as nothing is selected from a conditional: an attribute with branches is resolved in
both of them, and its cost counts one.
-/

namespace ExprEngine

namespace Standard

variable [HostObjects]

theorem cost_cases : ∀ o ∈ overloads, o.cost = .fixed 1 ∨ o.cost = linearCost := by
  unfold overloads
  simp only [List.forall_mem_cons, List.not_mem_nil, false_imp_iff, implies_true, and_true,
    or_true, true_and]
  exact ⟨.inl rfl, .inl rfl, .inl rfl, .inl rfl, .inl rfl, .inl rfl, .inl rfl, .inl rfl,
    .inl rfl, .inl rfl, .inl rfl, .inl rfl, .inl rfl, .inl rfl, .inl rfl, .inl rfl,
    .inr rfl, .inr rfl, .inr rfl, .inl rfl, .inl rfl, .inl rfl, .inl rfl, .inl rfl,
    .inl rfl, .inl rfl, .inl rfl, .inl rfl, .inl rfl, .inl rfl, .inl rfl⟩

theorem overloads_priced : ∀ o ∈ overloads, o.Priced := by
  intro o member
  rcases cost_cases o member with fixed | linear
  · exact ⟨fun sizes => by simp [Overload.callCost, fixed, Cost.constant],
      fun sizes => by simp [Overload.callCost, fixed, Cost.constant]⟩
  · refine ⟨fun sizes => ?_, fun sizes => ?_⟩
    · simp only [Overload.callCost, linear, linearCost]
      split <;> exact Nat.le_refl 1
    · simp only [Overload.callCost, linear, linearCost]
      split
      · exact Nat.le_max_right ..
      · decide

end Standard

namespace Planner

variable {c : Planner} {outer : List String}

theorem identPlan_priced (c : Planner) (locals : List String) (id : Int) (name : String)
    (bound : List String) : (c.identPlan locals id name).Made Plan.pricing bound := by
  unfold identPlan
  split
  · exact trivial
  · exact ⟨trivial, trivial⟩
  · split <;> exact ⟨trivial, trivial⟩

variable [HostObjects]

/-- With the standard registry all calls are priced, whatever is asked of the expression, as long as
nothing is selected from a conditional where plans are wrapped. -/
theorem supplies_pricing (standard : c.registry = .standard) {asked : Expr → List String → Prop}
    (values : c.options.exhaustive = true → ∀ e bound, asked e bound → c.SelectsValues e bound) :
    Supplies c Plan.pricing outer asked where
  calls function count := by
    intro o member
    have registered := (List.mem_filter.mp member).1
    have listed := (List.mem_filter.mp registered).1
    rw [standard, Registry.standard_overloads] at listed
    exact Standard.overloads_priced o listed
  ident _ := identPlan_priced c _ _ _ _
  resolved _ _ := identPlan_priced c _ _ _ _
  wraps _ _ single := single
  values exhausts := .inr (values exhausts)

end Planner

namespace Environment

open Planning

section

variable [HostObjects]

theorem root_priced (env : Environment) (standard : env.registry = .standard)
    {checked : CheckedExpr} {p : Plan}
    (made : outcome ((env.planner checked).planExpr checked.expr []) = .ok p)
    (values : env.options.exhaustive = true →
      checked.expr.Everywhere (env.planner checked).SelectsValues []) : p.Made Plan.pricing [] := by
  have planned : Planner.Planned (env.planner checked) checked.expr ([] ++ []) p :=
    Planner.planned_of_outcome _ checked.expr [] made
  by_cases exhausts : env.options.exhaustive = true
  · have supplies : Planner.Supplies (env.planner checked) Plan.pricing []
        (env.planner checked).SelectsValues :=
      Planner.supplies_pricing standard fun _ _ _ asked => asked
    exact Planner.made_of_planned supplies planned (values exhausts)
  · have supplies : Planner.Supplies (env.planner checked) Plan.pricing [] fun _ _ => True :=
      Planner.supplies_pricing standard fun exhaustive => absurd exhaustive exhausts
    exact Planner.made_of_planned supplies planned
      (Expr.everywhere_of_forall (fun _ _ => trivial) _ _)

theorem work_admitted (env : Environment) (standard : env.registry = .standard)
    {checked : CheckedExpr} {program : Program}
    (planned : outcome (env.plan checked) = .ok program)
    (values : env.options.exhaustive = true →
      checked.expr.Everywhere (env.planner checked).SelectsValues [])
    {scope : Scope} (unmarked : scope.patterns = []) :
    program.cost.max = Cost.unbounded ∨ (program.eval scope).work ≤ program.cost.max := by
  obtain ⟨made, -⟩ := plan_ok planned
  have priced := root_priced env standard made values
  have admitted : program.cost.Admits (program.eval scope).work :=
    Plan.eval_admitted program.provider program.root priced unmarked false fun same =>
      absurd same Bool.false_ne_true
  rcases Cost.admits_iff.mp admitted with within | endless
  · exact .inr within
  · exact .inl (Nat.le_antisymm (Plan.max_cost_le program.root) endless)

/-- An evaluation that may stop early does no more work than the maximal cost, which may be no
bound at all. -/
theorem work_le_cost (env : Environment) (standard : env.registry = .standard)
    (plain : env.options.exhaustive = false) {checked : CheckedExpr} {program : Program}
    (planned : outcome (env.plan checked) = .ok program) {scope : Scope}
    (unmarked : scope.patterns = []) :
    program.cost.max = Cost.unbounded ∨ (program.eval scope).work ≤ program.cost.max := by
  refine work_admitted env standard planned (fun exhausts => ?_) unmarked
  rw [plain] at exhausts
  cases exhausts

def measured (env : Environment) (checked : CheckedExpr) (scope : Scope) : Option (Cost × Nat) :=
  (outcome (env.plan checked)).toOption.map fun program =>
    (program.cost, (program.eval scope).work)

theorem of_measured {env : Environment} {checked : CheckedExpr} {scope : Scope} {cost : Cost}
    {work : Nat} (known : env.measured checked scope = some (cost, work)) :
    ∃ program, outcome (env.plan checked) = .ok program ∧ program.cost = cost ∧
      (program.eval scope).work = work := by
  unfold measured at known
  cases planned : outcome (env.plan checked) with
  | error e =>
    rw [planned] at known
    cases known
  | ok program =>
    rw [planned] at known
    obtain ⟨rfl, rfl⟩ := Prod.mk.inj (Option.some.inj known)
    exact ⟨program, rfl, rfl, rfl⟩

end

section

attribute [local instance] HostObjects.silent

/-- `[1, 2].all(x, x < 2 && a.f in [1])` -/
def allSmall : Expr :=
  (Macro.all (.call 11 Operator.logicalAnd
    [.call 6 Operator.less [.ident 4 "x", .literal 5 (.int 2)],
      .call 10 Operator.member [.select 8 (.ident 7 "a") "f",
        .list 9 [.literal 12 (.int 1)]]])).expand
    (.list 3 [.literal 1 (.int 1), .literal 2 (.int 2)]) "x" 13

def fieldOne : Scope := .frame .empty "a" (.map (Entries.single (.string "f") (.int 1)))

theorem allSmall_work_le :
    let env : Environment := { options := { optimize := true, trackState := true } }
    ∃ program, outcome (env.plan (.unchecked allSmall)) = .ok program ∧ program.cost.max = 12 ∧
      (program.eval fieldOne).work ≤ 12 := by
  intro env
  have known : env.measured (.unchecked allSmall) fieldOne = some (⟨2, 12⟩, 6) := by
    decide +kernel
  obtain ⟨program, planned, cost, -⟩ := of_measured known
  have bounded : program.cost.max = 12 := congrArg Cost.max cost
  have standard : env.registry = .standard := by dsimp only [env]
  refine ⟨program, planned, bounded, ?_⟩
  have unmarked : fieldOne.patterns = [] := rfl
  rcases work_le_cost env standard rfl planned unmarked with endless | within
  · rw [bounded] at endless
    exact absurd endless (by decide)
  · rwa [bounded] at within

end

section

variable [HostObjects]

/-- Exhaustive evaluation does no more work than the maximal cost either, if nothing is selected
from a conditional. -/
theorem work_le_cost_of_selectsValues (env : Environment) (standard : env.registry = .standard)
    {checked : CheckedExpr}
    (values : checked.expr.Everywhere (env.planner checked).SelectsValues []) {program : Program}
    (planned : outcome (env.plan checked) = .ok program) {scope : Scope}
    (unmarked : scope.patterns = []) :
    program.cost.max = Cost.unbounded ∨ (program.eval scope).work ≤ program.cost.max :=
  work_admitted env standard planned (fun _ => values) unmarked

end

attribute [local instance] HostObjects.silent

/-- `a.f == 1 || b` -/
def fieldOrOther : Expr :=
  .call 6 Operator.logicalOr
    [.call 4 Operator.equals [.select 2 (.ident 1 "a") "f", .literal 3 (.int 1)], .ident 5 "b"]

theorem fieldOrOther_work_le :
    let env : Environment := { options := { exhaustive := true } }
    ∃ program, outcome (env.plan (.unchecked fieldOrOther)) = .ok program ∧
      program.cost.max = 3 ∧ (program.eval fieldOne).work ≤ 3 := by
  intro env
  have known : env.measured (.unchecked fieldOrOther) fieldOne = some (⟨2, 3⟩, 2) := by
    decide +kernel
  obtain ⟨program, planned, cost, -⟩ := of_measured known
  have bounded : program.cost.max = 3 := congrArg Cost.max cost
  have standard : env.registry = .standard := by dsimp only [env]
  have values : fieldOrOther.Everywhere (env.planner (.unchecked fieldOrOther)).SelectsValues
      [] := by
    simp [fieldOrOther, Expr.Everywhere, Expr.EverywhereAll, Planner.SelectsValues,
      Expr.isConditional, Operator.index, Operator.logicalOr]
  refine ⟨program, planned, bounded, ?_⟩
  have unmarked : fieldOne.patterns = [] := rfl
  rcases work_le_cost_of_selectsValues env standard values planned unmarked with endless | within
  · rw [bounded] at endless
    exact absurd endless (by decide)
  · rwa [bounded] at within

/-- `(true ? {"f": 1} : {"f": 2}).f` -/
def chosenField : Expr :=
  .select 10 (.call 9 Operator.conditional [.literal 1 (.bool true),
    .mapping 5 [.keyed 4 (.literal 2 (.string "f")) (.literal 3 (.int 1))],
    .mapping 8 [.keyed 11 (.literal 6 (.string "f")) (.literal 7 (.int 2))]]) "f"

/-- The field is selected from both branches, and the cost counts one selection. -/
theorem chosenField_exceeds_cost :
    ({ options := { exhaustive := true } } : Environment).measured (.unchecked chosenField) .empty =
      some (⟨1, 1⟩, 2) := by
  decide +kernel

end Environment

end ExprEngine
