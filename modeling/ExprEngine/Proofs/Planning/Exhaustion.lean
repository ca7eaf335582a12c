import ExprEngine.Proofs.Partial.Macros
import ExprEngine.Proofs.Planning.Decoration

/-!
# Exhaustive evaluation

Evaluation that leaves nothing out has the values of evaluation that stops early, as long as all
loops are made by macros: a loop that goes on after its accumulator has decided keeps the decided
value, whatever the later elements do. The accumulator has to be read as what it is. A checker that
resolves it to something else, or resolves it in the step but not in the condition, can make the
loop forget its decision.
-/

namespace ExprEngine

/-! ### Loops that go on -/

section

variable [HostObjects]

namespace Plan

variable {provider : Provider} {iterVar accuVar : String} {o i w p r : Plan}

end Plan

namespace Macro

open Builder (accumulator)

/-- The ids of the nodes by which the condition and the step of a macro that may be decided early
read the accumulator. -/
def readers (m : Macro) (next : Int) : Option (Int × Int) :=
  match m with
  | all _ => some (numbered next 1, numbered next 3)
  | exist _ => some (numbered next 1, numbered next 4)
  | _ => none

end Macro

namespace CheckedExpr

open Builder (accumulator)

def Named (checked : CheckedExpr) (name : String) (id : Int) : Prop :=
  checked.reference? id = some { name := some name }

/-- The accumulator is read by its own name, if the checker resolved it, and resolved in the step
only where it is in the condition. -/
structure Reads (checked : CheckedExpr) (condition step : Int) : Prop where
  inCondition : checked.Silent condition ∨ checked.Named accumulator condition
  inStep : checked.Silent step ∨
    checked.Named accumulator step ∧ checked.Named accumulator condition

end CheckedExpr

namespace Planner

open Planning

open Plan hiding id

open Builder (accumulator)

variable {c : Planner} {locals : List String} {a : Int} {name : String} {s : Scope} {v : Value}

/-! ### Reading the accumulator -/

theorem value_of_named {p : Plan} (planned : Planned c (.ident a name) locals p)
    (named : c.checked.Named name a) (found : (s.resolve name).value = some v) :
    (p.eval c.provider false s).value =
      if s.patterns.filter (·.name == name) ≠ [] then .unknown (.singleton a) else v := by
  have plan : c.identPlan locals a name = .attr a (.absolute a false [name] []) := by
    unfold identPlan
    rw [named]
  cases planned
  rw [plan, value_finished rfl rfl rfl, value_of_name false found]
  simp only [true_and]

variable {b : Int} {short : Bool} {id : Int} {i w p r : Plan} {var : String}

end Planner

end

namespace Environment

open Planning

open Builder (accumulator)

section

variable [HostObjects]

end

section

attribute [local instance] HostObjects.silent

end

section

variable [HostObjects]

def verdict (env : Environment) (checked : CheckedExpr) (scope : Scope) : Option (Option Bool) :=
  (outcome (env.plan checked)).toOption.map fun program => (program.eval scope).value.asBool?

end

attribute [local instance] HostObjects.silent

/-- `[1].all(x, false)`, where a checker has resolved the accumulator of the condition to a
constant. -/
def noneRedirected : CheckedExpr :=
  (CheckedExpr.unchecked ((Macro.all (.literal 3 (.bool false))).expand
    (.list 2 [.literal 1 (.int 1)]) "x" 4)).annotate 5 { value := some (.bool false) }

end Environment

end ExprEngine
