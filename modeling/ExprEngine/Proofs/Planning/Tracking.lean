import ExprEngine.Environment
import ExprEngine.Proofs.Evaluation.Scopes
import ExprEngine.Proofs.Planning.Decoration

/-!
# State tracking

A program that records the values of its nodes is the program that does not, with every node
observed. It has the same size and cost, and the same value in every scope, whether its values are
recorded or not.
-/

namespace ExprEngine

variable [HostObjects]

namespace Program

variable {p q : Program}

/-- The value of the program in a scope, also where the values of its nodes are recorded. -/
structure Yields (p : Program) (scope : Scope) (v : Value) : Prop where
  eval : (p.eval scope).value = v
  tracked : (p.evalTracked scope).value.1 = v
  into : ∀ recording, (p.evalInto scope recording).value.1 = v

theorem value_evalInto (p : Program) (scope : Scope) (recording : Recording) :
    (p.evalInto scope recording).value.1 = (p.eval scope).value :=
  Plan.value_stable p.provider p.root false (Scope.recording_same scope)

theorem yields_eval (p : Program) (scope : Scope) : p.Yields scope (p.eval scope).value where
  eval := rfl
  tracked := value_evalInto p scope {}
  into := value_evalInto p scope

/-- Programs of the same size and cost, and with the same values. -/
structure Equivalent (p q : Program) : Prop where
  nodeCount : p.nodeCount = q.nodeCount
  cost : p.cost = q.cost
  sizeHint : p.root.sizeHint? = q.root.sizeHint?
  value : ∀ scope, ∃ v, p.Yields scope v ∧ q.Yields scope v

theorem equivalent_of_observes (observes : p.root.Observes q.root)
    (provider : p.provider = q.provider) : p.Equivalent q where
  nodeCount := observes.nodeCount_eq
  cost := observes.cost_eq
  sizeHint := observes.sizeHint?_eq
  value scope := by
    have same : p.root.Same p.provider q.root := observes.same fun _ never => never.elim
    have value : (p.eval scope).value = (q.eval scope).value := by
      rw [eval, eval, ← provider, same.value scope]
    refine ⟨(p.eval scope).value, yields_eval p scope, ?_⟩
    rw [value]
    exact yields_eval q scope

end Program

namespace Planner

open Planning

/-- Without exhaustive evaluation, a planner makes the plans of the bare planner, observed. -/
theorem planExpr_observes {c : Planner} (plain : c.options.exhaustive = false) (e : Expr)
    (locals : List String) :
    Agree Plan.Observes (outcome (c.planExpr e locals)) (outcome (c.bare.planExpr e locals)) := by
  have frees : Frees c (fun _ => False) fun _ _ => True :=
    { indifferent := fun _ never => never.elim
      single := fun exhausts => by rw [plain] at exhausts; cases exhausts
      loop := fun exhausts => by rw [plain] at exhausts; cases exhausts }
  refine (agree_of_simulates (bare_simulates frees) e locals).imp fun p q pair => ?_
  exact pair.related.wraps (Expr.everywhere_of_forall (fun _ _ => trivial) e locals)

end Planner

namespace Environment

open Planning

def tracking (e : Environment) (trackState : Bool) : Environment :=
  { e with options := { e.options with trackState, exhaustive := false } }

/-- State tracking changes neither what planning ends in nor the size, the cost or any value of the
program. -/
theorem tracking_transparent (env : Environment) (checked : CheckedExpr) :
    Agree Program.Equivalent (outcome ((env.tracking true).plan checked))
      (outcome ((env.tracking false).plan checked)) := by
  rw [plan, plan, outcome_bind, outcome_bind]
  have bare : ((env.tracking true).planner checked).bare = (env.tracking false).planner checked :=
    rfl
  have observes := Planner.planExpr_observes (c := (env.tracking true).planner checked) rfl
    checked.expr []
  rw [bare] at observes
  refine observes.bind fun p q observed => ?_
  exact .ok (Program.equivalent_of_observes observed rfl)

end Environment

end ExprEngine
