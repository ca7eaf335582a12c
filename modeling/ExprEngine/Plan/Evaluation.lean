import ExprEngine.Overload.Dispatch
import ExprEngine.Overload.Operator
import ExprEngine.Plan.Basic
import ExprEngine.Plan.Resolution
import ExprEngine.Regex.Move
import ExprEngine.Value.Access

/-!
# Evaluation

A plan evaluates to a value in a scope. Errors and unknowns are values, so evaluation always ends
in one, and what was done on the way is in the log of the run.
-/

namespace ExprEngine

variable [HostObjects]

namespace Value

/-- Whether the value decides a conjunction (`false`) or a disjunction (`true`). -/
def decides (short : Bool) (v : Value) : Bool := v.asBool? == some short

/-- A conjunction or disjunction of two values; either of them can decide it, whatever the other
one is. -/
def combine (id : Int) (short : Bool) (left right : Value) : Value :=
  if left.decides short then left
  else if right.decides short then right
  else match left, right with
    | bool _, bool _ => bool (!short)
    | left, right => (propagate [left, right]).getD
      ((noSuchOverload (if short then Operator.logicalOr else Operator.logicalAnd)
        [left, right]).withExprId id)

def unguided (id : Int) (guard : Value) : Value :=
  if guard.isFailure then guard
  else (noSuchOverload Operator.conditional [guard]).withExprId id

def select (id : Int) (guard whenTrue whenFalse : Value) : Value :=
  match guard with
  | bool true => whenTrue
  | bool false => whenFalse
  | guard => unguided id guard

/-- The value of a field read through a declared access, or as any field. -/
def readField (v : Value) (name : String) (access : Option (String × FieldAccess)) : Value :=
  match v, access with
  | object o t fields, some (typeName, a) =>
    if t.name = typeName then a.get (object o t fields)
    else (object o t fields).selectField (.string name)
  | v, _ => v.selectField (.string name)

def testField (id : Int) (v : Value) (name : String) (access : Option (String × FieldAccess)) :
    Value :=
  match v, access with
  | object o t fields, some (typeName, a) =>
    if t.name = typeName then bool (a.isSet (object o t fields))
    else ((object o t fields).hasField name).withExprId id
  | v, _ => (v.hasField name).withExprId id

def indexConstant (v key : Value) : Value :=
  match Key.ofValue? key with
  | some k => v.indexKey k
  | none => v.index key

end Value

/-- Folds elements into an accumulator while the condition is not false, or to the last one; an
error of the condition or of a step ends the loop. -/
def iterate (everything : Bool) (condition step : Value → Value → Run Value) :
    List Value → Value → Run (Except Value Value)
  | [], accu => return .ok accu
  | x :: rest, accu => do
    let c ← condition accu x
    if c.isError then return .error c
    if !everything && c.decides false then return .ok accu
    let next ← step accu x
    if next.isError then return .error next
    iterate everything condition step rest next

namespace Plan

mutual

/-- The value of a plan; with `everything`, parts that cannot change the result are evaluated
too. -/
def eval (provider : Provider) : Plan → Bool → Scope → Run Value
  | const id v, _, _ => do
    Run.reach id
    return v
  | attr id a, everything, scope => do
    Run.reach id
    resolve provider a everything scope
  | both id l r, everything, scope => do
    Run.reach id
    let left ← eval provider l false scope
    if !everything && left.decides false then return left
    let right ← eval provider r false scope
    return Value.combine id false left right
  | either id l r, everything, scope => do
    Run.reach id
    let left ← eval provider l false scope
    if !everything && left.decides true then return left
    let right ← eval provider r false scope
    return Value.combine id true left right
  | conditional id g t f, everything, scope => do
    Run.reach id
    let guard ← eval provider g false scope
    if everything then
      let whenTrue ← eval provider t false scope
      let whenFalse ← eval provider f false scope
      return Value.select id guard whenTrue whenFalse
    else match guard with
      | .bool true => eval provider t false scope
      | .bool false => eval provider f false scope
      | guard => return Value.unguided id guard
  | call id function args overloads, _, scope => do
    Run.reach id
    let values ← evalAll provider args scope
    let passed := if overloads.any Overload.nonStrict then none else Value.propagate values
    match passed with
    | some v => return v
    | none => return (← dispatch function overloads values).withExprId id
  | list id elements, _, scope => do
    Run.reach id
    let values ← evalAll provider elements scope
    return Value.strict values (.list values)
  | mapping id entries, _, scope => do
    Run.reach id
    let pairs ← evalEntries provider entries scope
    return Value.strict (pairs.flatMap fun (k, v) => [k, v]) ((Value.mapOf pairs).withExprId id)
  | object id typeName fields, _, scope => do
    Run.reach id
    let values ← evalFields provider fields scope
    match Value.propagate (values.map Prod.snd) with
    | some v => return v
    | none =>
      Run.emit (.constructed typeName values)
      return (provider.construct typeName values).withExprId id
  | presence id operand field access, _, scope => do
    Run.reach id
    let v ← eval provider operand false scope
    Run.emit (.tested id)
    return v.testField id field access
  | loop id iterVar range accuVar init condition step result, everything, scope => do
    Run.reach id
    let ranged ← eval provider range false scope
    if ranged.isFailure then return ranged
    match ranged.elements? with
    | none =>
      return (Value.failure .noSuchOverload
        ("type '" ++ ranged.valueType.name ++ "' is not iterable")).withExprId range.id
    | some elements =>
      let start ← eval provider init false scope
      let inside (accu x : Value) : Scope := .frame (.frame scope accuVar accu) iterVar x
      let last ← iterate everything (fun accu x => eval provider condition false (inside accu x))
        (fun accu x => eval provider step false (inside accu x)) elements start
      match last with
      | .ok accu => eval provider result false (.frame scope accuVar accu)
      | .error e => return e
  | membership id element items keys function overloads, _, scope => do
    Run.reach id
    let v ← eval provider element false scope
    if v.isFailure then return v
    match Key.ofValue? v with
    | some key =>
      Run.emit (.lookedUp id)
      return .bool (key ∈ keys)
    | none => return (← dispatch function overloads [v, .list items]).withExprId id
  | search id text source pattern function overloads, _, scope => do
    Run.reach id
    let v ← eval provider text false scope
    match v with
    | .string s =>
      Run.emit (.searched id)
      return .bool (pattern.matchesIn s)
    | v =>
      if v.isFailure then return v
      return (← dispatch function overloads [v, .string source]).withExprId id
  | exhaustive inner, _, scope => eval provider inner true scope
  | observed inner, _, scope => do
    let v ← eval provider inner false scope
    scope.record inner.id v
    return v
termination_by structural p => p

def evalAll (provider : Provider) : List Plan → Scope → Run (List Value)
  | [], _ => return []
  | p :: rest, scope => do
    let v ← eval provider p false scope
    let vs ← evalAll provider rest scope
    return v :: vs
termination_by structural ps => ps

def evalEntries (provider : Provider) : List (Plan × Plan) → Scope → Run (List (Value × Value))
  | [], _ => return []
  | (key, value) :: rest, scope => do
    let k ← eval provider key false scope
    let v ← eval provider value false scope
    let pairs ← evalEntries provider rest scope
    return (k, v) :: pairs
termination_by structural entries => entries

def evalFields (provider : Provider) : List (String × Plan) → Scope → Run (List (String × Value))
  | [], _ => return []
  | (name, value) :: rest, scope => do
    let v ← eval provider value false scope
    let fields ← evalFields provider rest scope
    return (name, v) :: fields
termination_by structural fields => fields

def resolve (provider : Provider) : Attribute → Bool → Scope → Run Value
  | .absolute id isLocal names qs, _, scope =>
    (Variable.mk id isLocal names (steps provider qs)).resolve provider scope
  | .ambiguous id names qs, _, scope =>
    Variable.resolveUnchecked id names (steps provider qs) provider scope
  | .relative _ operand qs, _, scope => do
    let v ← eval provider operand false scope
    Step.walk scope (steps provider qs) v
  | .conditional id g t f, everything, scope => do
    let guard ← eval provider g false scope
    if everything then
      let whenTrue ← resolve provider t true scope
      let whenFalse ← resolve provider f true scope
      return Value.select id guard whenTrue whenFalse
    else match guard with
      | .bool true => resolve provider t false scope
      | .bool false => resolve provider f false scope
      | guard => return Value.unguided id guard
termination_by structural a => a

def steps (provider : Provider) : List Qualifier → List Step
  | [] => []
  | .field id name access :: rest =>
    { label := ⟨id, some name⟩
      key := fun _ => return .string name
      apply := fun _ v => return v.readField name access } :: steps provider rest
  | .constant id key :: rest =>
    { label := ⟨id, none⟩
      key := fun _ => return key
      apply := fun _ v => return v.indexConstant key } :: steps provider rest
  | .computed id key :: rest =>
    { label := ⟨id, none⟩
      key := fun scope => eval provider key false scope
      apply := fun scope v => do
        let k ← eval provider key false scope
        return v.index k } :: steps provider rest
termination_by structural qs => qs

end

end Plan

end ExprEngine
