import ExprEngine.Expr.Basic

/-!
# Annotated expressions

A checker resolves nodes to full names or constants and finds the types of nodes. An expression
without annotations is planned as it is written.
-/

namespace ExprEngine

/-- What a checker resolved a node to. -/
structure Reference where
  name : Option String := none
  value : Option Value := none
deriving Inhabited

structure CheckedExpr where
  expr : Expr
  /-- By id; the last reference given to an id counts. -/
  references : List (Int × Reference) := []
  types : List (Int × ValueType) := []
deriving Inhabited

namespace CheckedExpr

def unchecked (expr : Expr) : CheckedExpr := { expr }

def annotate (c : CheckedExpr) (id : Int) (r : Reference) : CheckedExpr :=
  { c with references := (id, r) :: c.references }

def withType (c : CheckedExpr) (id : Int) (t : ValueType) : CheckedExpr :=
  { c with types := (id, t) :: c.types }

def reference? (c : CheckedExpr) (id : Int) : Option Reference := c.references.lookup id

def type? (c : CheckedExpr) (id : Int) : Option ValueType := c.types.lookup id

end CheckedExpr

end ExprEngine
