/-!
# Namespaces

An unchecked name is looked up in the namespace that it stands in and in those around it.
-/

namespace ExprEngine

/-- A dotted namespace; the empty name is the root. -/
structure Namespace where
  name : String
deriving DecidableEq, Inhabited

namespace Namespace

def root : Namespace := ⟨""⟩

/-- A dotted name and what stands before each of its dots, longest first. -/
def enclosing : List Char → List (List Char)
  | [] => [[]]
  | c :: rest => (enclosing rest).map (c :: ·) ++ if c = '.' then [[]] else []

/-- The full names that a name may have, most specific first. A leading dot makes a name
absolute. -/
def candidates (n : Namespace) (name : String) : List String :=
  match name.toList with
  | '.' :: rest => [String.ofList rest]
  | _ =>
    if n.name.isEmpty then [name]
    else (enclosing n.name.toList).map (String.ofList · ++ "." ++ name) ++ [name]

end Namespace

end ExprEngine
