import ExprEngine.Host.Namespace
import ExprEngine.Overload.Standard
import ExprEngine.Plan.Planner
import ExprEngine.Program

/-!
# Environments

An environment holds what programs are planned with.
-/

namespace ExprEngine

variable [HostObjects]

namespace PlanOptions

def dumped (o : PlanOptions) : String :=
  recordText "PlanOptions" [("optimize", boolText o.optimize),
    ("track_state", boolText o.trackState), ("exhaustive", boolText o.exhaustive)]

end PlanOptions

structure Environment where
  registry : Registry := .standard
  provider : Provider := TypeTable.empty.provider
  adapter : Adapter := Adapter.basic
  candidates : String → List String := Namespace.root.candidates
  options : PlanOptions := {}

namespace Environment

def bindings (e : Environment) : Table := { adapter := e.adapter }

def planner (e : Environment) (checked : CheckedExpr) : Planner where
  registry := e.registry
  provider := e.provider
  candidates := e.candidates
  checked
  options := e.options

def plan (e : Environment) (checked : CheckedExpr) : Planning Program := do
  return ⟨← (e.planner checked).plan, e.provider⟩

def dumped (e : Environment) : String :=
  "Env " ++ braced (" registry: " ++ e.registry.dumped ++ ", options: " ++ e.options.dumped
    ++ ", .. ")

end Environment

end ExprEngine
