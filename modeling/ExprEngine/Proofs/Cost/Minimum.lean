import ExprEngine.Proofs.Cost.Maximum
import ExprEngine.Proofs.Cost.Thorough
import ExprEngine.Proofs.Planning.Exhaustion

/-!
# Least work

The minimal cost of a program is no more than the work of a thorough evaluation that succeeds. Other
evaluations can do less: the minimal cost counts all iterations of a loop that stops early, and
operands whose failures are made up for by another operand.
-/

namespace ExprEngine.Environment

open Planning

section

variable [HostObjects]

/-- A successful evaluation that is thorough does no less work than the minimal cost. -/
theorem cost_le_work (env : Environment) (standard : env.registry = .standard)
    (plain : env.options.exhaustive = false) {checked : CheckedExpr} {program : Program}
    (planned : outcome (env.plan checked) = .ok program) {scope : Scope}
    (unmarked : scope.patterns = []) (regular : (program.eval scope).value.isFailure = false)
    (thorough : program.root.thorough program.provider scope = true) :
    program.cost.min ≤ (program.eval scope).work := by
  obtain ⟨made, -⟩ := plan_ok planned
  have priced := root_priced env standard made fun exhausts => by
    change env.options.exhaustive = true at exhausts
    rw [plain] at exhausts
    cases exhausts
  exact Plan.eval_worth program.provider program.root priced unmarked thorough regular

end

attribute [local instance] HostObjects.silent

/-- `[1, 2].exists_one(x, x == a.f)` -/
def oneIsField : Expr :=
  (Macro.existOne (.call 8 Operator.equals
    [.ident 5 "x", .select 7 (.ident 6 "a") "f"])).expand
    (.list 3 [.literal 1 (.int 1), .literal 2 (.int 2)]) "x" 9

theorem oneIsField_cost_le :
    ∃ program, outcome (({} : Environment).plan (.unchecked oneIsField)) = .ok program ∧
      program.cost.min = 3 ∧ 3 ≤ (program.eval fieldOne).work := by
  have known : ({} : Environment).measured (.unchecked oneIsField) fieldOne =
      some (⟨3, 7⟩, 6) := by
    decide +kernel
  have sound : (outcome (({} : Environment).plan (.unchecked oneIsField))).toOption.map
      (fun program => ((program.eval fieldOne).value.isFailure,
        program.root.thorough program.provider fieldOne)) = some (false, true) := by
    decide +kernel
  obtain ⟨program, planned, cost, -⟩ := of_measured known
  rw [planned] at sound
  obtain ⟨regular, thorough⟩ := Prod.mk.inj (Option.some.inj sound)
  have least : program.cost.min = 3 := congrArg Cost.min cost
  have standard : ({} : Environment).registry = .standard := by dsimp only
  have unmarked : fieldOne.patterns = [] := rfl
  have bound := cost_le_work {} standard rfl planned unmarked regular thorough
  exact ⟨program, planned, least, least ▸ bound⟩

/-- `[1, 2, 3, 4].all(x, x > 5)` -/
def allLarge : Expr :=
  (Macro.all (.call 8 Operator.greater [.ident 6 "x", .literal 7 (.int 5)])).expand
    (.list 5 [.literal 1 (.int 1), .literal 2 (.int 2), .literal 3 (.int 3), .literal 4 (.int 4)])
    "x" 9

/-- `-(-x) || true` -/
def negatedOrTrue : Expr :=
  .call 5 Operator.logicalOr
    [.call 3 Operator.negate [.call 2 Operator.negate [.ident 1 "x"]], .literal 4 (.bool true)]

/-- The loop stops after its first element, and its cost counts four; the negations of what is not
bound are not called, and their failure is forgotten. -/
theorem cost_exceeds_work :
    ({} : Environment).measured (.unchecked allLarge) .empty = some (⟨4, 12⟩, 3) ∧
      verdict {} (.unchecked allLarge) .empty = some (some false) ∧
      ({} : Environment).measured (.unchecked negatedOrTrue) .empty = some (⟨2, 3⟩, 0) ∧
        verdict {} (.unchecked negatedOrTrue) .empty = some (some true) := by
  decide +kernel

end ExprEngine.Environment
