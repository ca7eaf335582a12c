import ExprEngine.Scope.Pattern
import ExprEngine.Scope.Table

/-!
# Scopes

A scope resolves names for one evaluation. Scopes are stacked: a loop puts a frame on the scope
around it, and layers add bindings, mark names as unknown, or have values recorded.
-/

namespace ExprEngine

inductive Scope where
  | empty
  | table (t : Table)
  | function (f : String → Option Value)
  /-- The child comes before the parent. -/
  | layered (parent child : Scope)
  /-- One variable over the parent. -/
  | frame (parent : Scope) (name : String) (value : Value)
  /-- What the patterns cover is unknown. -/
  | marked (inner : Scope) (patterns : List UnknownPattern)
  /-- Values of nodes are recorded. -/
  | recording (inner : Scope)

namespace Scope

instance : Inhabited Scope := ⟨empty⟩

def resolve : Scope → String → Run (Option Value)
  | empty, _ => return none
  | table t, name => t.resolve name
  | function f, name => return f name
  | layered parent child, name => do
    match ← child.resolve name with
    | some v => return some v
    | none => parent.resolve name
  | frame parent n v, name => if name = n then return some v else parent.resolve name
  | marked inner _, name => inner.resolve name
  | recording inner, name => inner.resolve name

def parent? : Scope → Option Scope
  | empty | table _ | function _ => none
  | layered parent _ => some parent
  | frame parent _ _ => some parent
  | marked inner _ => some inner
  | recording inner => some inner

/-- The scope that many parents up, or the outermost one on the way, and how far up it is. -/
def ancestor (s : Scope) : Nat → Scope × Nat
  | 0 => (s, 0)
  | n + 1 =>
    match s.parent? with
    | some parent =>
      let (top, climbed) := parent.ancestor n
      (top, climbed + 1)
    | none => (s, 0)

/-- The patterns in force; those of a layer hide those below. -/
def patterns : Scope → List UnknownPattern
  | empty | table _ | function _ => []
  | layered parent child => if child.patterns.isEmpty then parent.patterns else child.patterns
  | frame parent _ _ => parent.patterns
  | marked _ ps => ps
  | recording inner => inner.patterns

def isRecording : Scope → Bool
  | empty | table _ | function _ => false
  | layered parent child => child.isRecording || parent.isRecording
  | frame parent _ _ => parent.isRecording
  | marked inner _ => inner.isRecording
  | recording _ => true

def record (s : Scope) (id : Int) (v : Value) : Run Unit :=
  if s.isRecording then Run.emit (.recorded id v) else pure ()

end Scope

end ExprEngine
