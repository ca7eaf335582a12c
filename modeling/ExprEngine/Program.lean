import ExprEngine.Plan.Bounds
import ExprEngine.Plan.Evaluation
import ExprEngine.Run.Recording
import ExprEngine.Value.Native

/-!
# Programs

A program is the plan of a whole expression. It is evaluated any number of times.
-/

namespace ExprEngine

variable [HostObjects]

structure Program where
  root : Plan
  provider : Provider

namespace Program

def eval (p : Program) (scope : Scope) : Run Value := p.root.eval p.provider false scope

/-- Evaluates in a scope that has values recorded, and adds them to a recording. -/
def evalInto (p : Program) (scope : Scope) (recording : Recording) : Run (Value × Recording) :=
  let run := p.eval (.recording scope)
  ⟨(run.value, recording.follow run.log), run.log⟩

def evalTracked (p : Program) (scope : Scope) : Run (Value × Recording) := p.evalInto scope {}

def evalNative (p : Program) (shape : Shape) (scope : Scope) :
    Run (Except EvalError shape.Carrier) :=
  shape.read <$> p.eval scope

def cost (p : Program) : Cost := p.root.cost

def nodeCount (p : Program) : Nat := p.root.nodeCount

end Program

end ExprEngine
