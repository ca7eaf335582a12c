import ExprEngine.Overload.Basic

/-!
# Registries

A registry holds overloads in the order of their registration. No two overloads of one name
overlap.
-/

namespace ExprEngine

inductive RegistryError where
  | collision (id : String)
  | emptyId
deriving DecidableEq, Inhabited

namespace RegistryError

def message : RegistryError → String
  | collision id =>
    "overload '" ++ id ++ "' collides with an overload of the same arity and operand trait"
  | emptyId => "overload id must not be empty"

end RegistryError

structure Registry where
  overloads : List Overload := []
deriving Inhabited

namespace Registry

def empty : Registry := {}

def find (r : Registry) (function : String) : List Overload :=
  r.overloads.filter (·.id == function)

def contains (r : Registry) (function : String) : Bool := r.overloads.any (·.id == function)

def size (r : Registry) : Nat := r.overloads.length

def isEmpty (r : Registry) : Bool := r.overloads.isEmpty

def add (r : Registry) (o : Overload) : Except RegistryError Registry :=
  if o.id.isEmpty then .error .emptyId
  else if (r.find o.id).any (·.overlaps o) then .error (.collision o.id)
  else .ok ⟨r.overloads ++ [o]⟩

/-- Adds what can be added; an overload that collides is left out. -/
def addAll (r : Registry) (os : List Overload) : Registry :=
  os.foldl (fun r o => match r.add o with
    | .ok s => s
    | .error _ => r) r

def functions (r : Registry) : List String :=
  (r.overloads.map (·.id)).eraseDups.mergeSort (fun a b => decide (a ≤ b))

def dumped (r : Registry) : String :=
  recordText "Registry" [("functions", listText (r.functions.map Text.quoted))]

end Registry

end ExprEngine
