import ExprEngine.Expr.Basic
import ExprEngine.Overload.Operator

/-!
# Building expressions

A builder numbers the nodes that it makes one after the other. Collection macros expand into loops.
-/

namespace ExprEngine

/-- The state is the id of the next node. -/
abbrev Builder : Type → Type := StateM Int

namespace Builder

/-- The variable that macros accumulate in. -/
def accumulator : String := "__result__"

def freshId : Builder Int := modifyGet fun id => (id, id + 1)

def literal (v : Value) : Builder Expr := return .literal (← freshId) v

def ident (name : String) : Builder Expr := return .ident (← freshId) name

def select (operand : Expr) (field : String) : Builder Expr :=
  return .select (← freshId) operand field

def presence (operand : Expr) (field : String) : Builder Expr :=
  return .presence (← freshId) operand field

def call (function : String) (args : List Expr) : Builder Expr :=
  return .call (← freshId) function args

def member (target : Expr) (function : String) (args : List Expr) : Builder Expr :=
  return .member (← freshId) target function args

def list (elements : List Expr) : Builder Expr := return .list (← freshId) elements

def keyedEntries : List (Expr × Expr) → Builder (List Entry)
  | [] => return []
  | (key, value) :: rest => do
    let id ← freshId
    let entries ← keyedEntries rest
    return .keyed id key value :: entries

def fieldEntries : List (String × Expr) → Builder (List Entry)
  | [] => return []
  | (name, value) :: rest => do
    let id ← freshId
    let entries ← fieldEntries rest
    return .field id name value :: entries

def mapping (entries : List (Expr × Expr)) : Builder Expr := do
  let entries ← keyedEntries entries
  return .mapping (← freshId) entries

def object (typeName : String) (fields : List (String × Expr)) : Builder Expr := do
  let entries ← fieldEntries fields
  return .object (← freshId) typeName entries

def loop (iterVar : String) (range : Expr) (accuVar : String)
    (init condition step result : Expr) : Builder Expr :=
  return .loop (← freshId) iterVar range accuVar init condition step result

/-! ### Operators -/

def and (a b : Expr) : Builder Expr := call Operator.logicalAnd [a, b]

def or (a b : Expr) : Builder Expr := call Operator.logicalOr [a, b]

def not (a : Expr) : Builder Expr := call Operator.logicalNot [a]

def conditional (guard whenTrue whenFalse : Expr) : Builder Expr :=
  call Operator.conditional [guard, whenTrue, whenFalse]

def index (operand key : Expr) : Builder Expr := call Operator.index [operand, key]

def binary (function : String) (a b : Expr) : Builder Expr := call function [a, b]

/-! ### Macros -/

def accumulate (var : String) (range init condition step result : Expr) : Builder Expr :=
  loop var range accumulator init condition step result

def all (range : Expr) (var : String) (predicate : Expr) : Builder Expr := do
  let init ← literal (.bool true)
  let condition ← call Operator.notStrictlyFalse [← ident accumulator]
  let step ← and (← ident accumulator) predicate
  let result ← ident accumulator
  accumulate var range init condition step result

def exist (range : Expr) (var : String) (predicate : Expr) : Builder Expr := do
  let init ← literal (.bool false)
  let undecided ← not (← ident accumulator)
  let condition ← call Operator.notStrictlyFalse [undecided]
  let step ← or (← ident accumulator) predicate
  let result ← ident accumulator
  accumulate var range init condition step result

def existOne (range : Expr) (var : String) (predicate : Expr) : Builder Expr := do
  let init ← literal (.int 0)
  let condition ← literal (.bool true)
  let counted ← ident accumulator
  let next ← binary Operator.add counted (← literal (.int 1))
  let step ← conditional predicate next (← ident accumulator)
  let total ← ident accumulator
  let result ← binary Operator.equals total (← literal (.int 1))
  accumulate var range init condition step result

def append (kept item : Expr) : Builder Expr := do
  binary Operator.add kept (← list [item])

def map (range : Expr) (var : String) (transform : Expr) : Builder Expr := do
  let init ← list []
  let condition ← literal (.bool true)
  let step ← append (← ident accumulator) transform
  let result ← ident accumulator
  accumulate var range init condition step result

def mapWhere (range : Expr) (var : String) (predicate transform : Expr) : Builder Expr := do
  let init ← list []
  let condition ← literal (.bool true)
  let extended ← append (← ident accumulator) transform
  let step ← conditional predicate extended (← ident accumulator)
  let result ← ident accumulator
  accumulate var range init condition step result

def filter (range : Expr) (var : String) (predicate : Expr) : Builder Expr := do
  let init ← list []
  let condition ← literal (.bool true)
  let kept ← ident accumulator
  let extended ← append kept (← ident var)
  let step ← conditional predicate extended (← ident accumulator)
  let result ← ident accumulator
  accumulate var range init condition step result

end Builder

end ExprEngine
