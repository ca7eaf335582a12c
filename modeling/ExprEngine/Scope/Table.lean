import ExprEngine.Host.Data
import ExprEngine.Run.Basic
import ExprEngine.Value.Shown

/-!
# Binding tables

A table binds names to values, to values that are computed on demand, and to data of the host.
-/

namespace ExprEngine

/-- A value that is computed on demand and kept in a cell, which copies share. -/
structure LazyValue where
  cell : Nat
  initialise : Unit → Value
deriving Inhabited

inductive Binding where
  | value (v : Value)
  | onDemand (l : LazyValue)
  | data (d : HostData)
deriving Inhabited

structure Table where
  bindings : List (String × Binding) := []
  adapter : Adapter := Adapter.basic

namespace Table

def empty : Table := {}

def bind (t : Table) (name : String) (b : Binding) : Table :=
  { t with bindings := (name, b) :: t.bindings.filter (·.1 != name) }

def size (t : Table) : Nat := t.bindings.length

def isEmpty (t : Table) : Bool := t.bindings.isEmpty

/-- The value of a binding; data is converted at every resolution. -/
def force (t : Table) (name : String) : Binding → Run Value
  | .value v => return v
  | .onDemand l => do
    let v := l.initialise ()
    Run.emit (.demanded l.cell name v)
    return v
  | .data d => return t.adapter d

def resolve (t : Table) (name : String) : Run (Option Value) :=
  match t.bindings.lookup name with
  | some b => some <$> t.force name b
  | none => return none

def dumped (t : Table) : String :=
  let names := (t.bindings.map Prod.fst).mergeSort (fun a b => decide (a ≤ b))
  recordText "MapActivation" [("names", listText (names.map Text.quoted))]

end Table

end ExprEngine
