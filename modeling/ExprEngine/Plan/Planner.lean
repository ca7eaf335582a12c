import ExprEngine.Expr.Annotation
import ExprEngine.Plan.Error
import ExprEngine.Plan.Folding

/-!
# Planning

Expressions become plans from the leaves up. Names and selections become attributes, and calls are
bound to the overloads of their name and number of arguments. Each plan is folded and wrapped, as
the options ask, before it goes into a larger one.
-/

namespace ExprEngine

variable [HostObjects]

structure PlanOptions where
  /-- Fold constant parts. -/
  optimize : Bool := false
  /-- Record the values of nodes. -/
  trackState : Bool := false
  /-- Evaluate all operands and branches; their values are recorded, too. -/
  exhaustive : Bool := false
deriving DecidableEq, Inhabited

namespace PlanOptions

def observes (o : PlanOptions) : Bool := o.trackState || o.exhaustive

end PlanOptions

namespace Plan

/-- Whether some part of the plan may be left out of an evaluation. -/
def mayStopEarly : Plan → Bool
  | both .. | either .. | conditional .. | loop .. => true
  | attr _ (.conditional ..) => true
  | _ => false

def isObserved : Plan → Bool
  | observed _ => true
  | _ => false

def decorate (options : PlanOptions) (p : Plan) : Plan :=
  let p := if options.exhaustive && p.mayStopEarly then exhaustive p else p
  if options.observes && !p.isObserved then observed p else p

/-- The attribute that a plan evaluates through, without the wrappers of the plan. -/
def toAttribute : Plan → Attribute
  | observed inner | exhaustive inner => inner.toAttribute
  | attr _ a => a
  | conditional id g t f => .conditional id g t.toAttribute f.toAttribute
  | p => .relative p.id p []

def qualify (id : Int) (operand : Plan) (q : Qualifier) : Plan :=
  attr id (operand.toAttribute.qualify q)

def indexed (id : Int) (operand key : Plan) : Plan :=
  operand.qualify id <|
    match key.asConst? with
    | some v => .constant id v
    | none => .computed id key

end Plan

/-- A planning step fails or goes on; folding evaluates, so that it may leave a log. -/
abbrev Planning : Type → Type := ExceptT PlanError Run

structure Planner where
  registry : Registry
  provider : Provider
  /-- The full names that an unchecked name may have. -/
  candidates : String → List String
  checked : CheckedExpr
  options : PlanOptions

namespace Planner

/-- Folds and wraps a plan whose parts are final. -/
def finish (c : Planner) (p : Plan) : Planning Plan := do
  let folded ← if c.options.optimize then p.fold c.provider else pure p
  return folded.decorate c.options

/-- A name resolved by the checker, or else a loop variable, or else an unchecked name. -/
def identPlan (c : Planner) (locals : List String) (id : Int) (name : String) : Plan :=
  match c.checked.reference? id with
  | some { value := some v, .. } => .const id v
  | some { name := some full, .. } => .attr id (.absolute id false [full] [])
  | _ =>
    if name ∈ locals then .attr id (.absolute id true [name] [])
    else .attr id (.ambiguous id (c.candidates name) [])

def isResolved (c : Planner) (id : Int) : Bool :=
  match c.checked.reference? id with
  | some r => r.name.isSome || r.value.isSome
  | none => false

/-- Access to a field, where the checker found the operand to be of a declared object type. -/
def fieldAccess (c : Planner) (operand : Int) (field : String) : Option (String × FieldAccess) :=
  match c.checked.type? operand with
  | some t =>
    if t.kind = .object then (c.provider.findField t.name field).map (t.name, ·) else none
  | none => none

def operandCount? (function : String) : Option Nat :=
  if function = Operator.conditional then some 3
  else if function = Operator.logicalAnd ∨ function = Operator.logicalOr
      ∨ function = Operator.index then some 2
  else none

def wrongOperands (id : Int) (function : String) (count : Nat) : PlanError :=
  .malformed id ("'" ++ function ++ "' takes " ++ toString count ++ " operands")

def operatorPlan? (id : Int) (function : String) : List Plan → Option Plan
  | [a, b] =>
    if function = Operator.logicalAnd then some (.both id a b)
    else if function = Operator.logicalOr then some (.either id a b)
    else if function = Operator.index then some (a.indexed id b)
    else none
  | [g, t, f] => if function = Operator.conditional then some (.conditional id g t f) else none
  | _ => none

/-- The plan of a call that is no operator's. A call on a target may be left to the target. -/
def callPlan (c : Planner) (id : Int) (function : String) (onTarget : Bool) (args : List Plan) :
    Planning Plan :=
  let registered := c.registry.find function
  let overloads := registered.filter (·.takes args.length)
  if !onTarget && registered.isEmpty then throw (.unknownFunction function id)
  else if !onTarget && overloads.isEmpty then throw (.arityMismatch function args.length id)
  else c.finish (.call id function args overloads)

def typeName (c : Planner) (id : Int) (name : String) : Planning String :=
  match (c.checked.reference? id).bind Reference.name with
  | some full => return full
  | none =>
    match (c.candidates name).find? fun full => (c.provider.findType full).isSome with
    | some full => return full
    | none => throw (.unknownType name id)

mutual

def planExpr (c : Planner) : Expr → List String → Planning Plan
  | .literal id v, _ => c.finish (.const id v)
  | .ident id name, locals => c.finish (c.identPlan locals id name)
  | .select id operand field, locals =>
    if c.isResolved id then c.finish (c.identPlan locals id field)
    else do
      let planned ← planExpr c operand locals
      c.finish (planned.qualify id (.field id field (c.fieldAccess operand.id field)))
  | .presence id operand field, locals => do
    let planned ← planExpr c operand locals
    c.finish (.presence id planned field (c.fieldAccess operand.id field))
  | .call id function args, locals =>
    match operandCount? function with
    | some count =>
      if args.length ≠ count then throw (wrongOperands id function count)
      else do
        let planned ← planAll c args locals
        match operatorPlan? id function planned with
        | some p => c.finish p
        | none => throw (wrongOperands id function count)
    | none => do
      let planned ← planAll c args locals
      c.callPlan id function false planned
  | .member id target function args, locals =>
    match operandCount? function with
    | some count => throw (wrongOperands id function count)
    | none => do
      let planned ← planExpr c target locals
      let rest ← planAll c args locals
      c.callPlan id function true (planned :: rest)
  | .list id elements, locals => do
    let planned ← planAll c elements locals
    c.finish (.list id planned)
  | .mapping id entries, locals => do
    let planned ← planKeyed c entries locals
    c.finish (.mapping id planned)
  | .object id name entries, locals => do
    let full ← c.typeName id name
    let planned ← planFields c full entries locals
    c.finish (.object id full planned)
  | .loop id iterVar range accuVar init condition step result, locals => do
    let range ← planExpr c range locals
    let init ← planExpr c init locals
    let condition ← planExpr c condition (iterVar :: accuVar :: locals)
    let step ← planExpr c step (iterVar :: accuVar :: locals)
    let result ← planExpr c result (accuVar :: locals)
    c.finish (.loop id iterVar range accuVar init condition step result)
termination_by structural e => e

def planAll (c : Planner) : List Expr → List String → Planning (List Plan)
  | [], _ => return []
  | e :: rest, locals => do
    let p ← planExpr c e locals
    let ps ← planAll c rest locals
    return p :: ps
termination_by structural es => es

def planKeyed (c : Planner) : List Entry → List String → Planning (List (Plan × Plan))
  | [], _ => return []
  | .field id _ _ :: _, _ => throw (.malformed id "map literal entry without a key expression")
  | .keyed _ key value :: rest, locals => do
    let k ← planExpr c key locals
    let v ← planExpr c value locals
    let entries ← planKeyed c rest locals
    return (k, v) :: entries
termination_by structural entries => entries

def planFields (c : Planner) (typeName : String) :
    List Entry → List String → Planning (List (String × Plan))
  | [], _ => return []
  | .keyed id _ _ :: _, _ =>
    throw (.malformed id ("object construction of '" ++ typeName ++ "' with a computed key"))
  | .field _ name value :: rest, locals => do
    let v ← planExpr c value locals
    let fields ← planFields c typeName rest locals
    return (name, v) :: fields
termination_by structural entries => entries

end

def plan (c : Planner) : Planning Plan := planExpr c c.checked.expr []

end Planner

end ExprEngine
