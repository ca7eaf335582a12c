import ExprEngine.Host.ObjectType
import ExprEngine.Overload.Operator
import ExprEngine.Plan.Interpretation
import ExprEngine.Scope.Basic

/-!
# Resolution of names

A name is resolved by the patterns of the scope, then by its bindings, then by the provider. The
qualifiers are steps taken from the value found; the first failure ends the walk.
-/

namespace ExprEngine

/-- A qualifier ready to be applied. -/
structure Step where
  label : Label
  /-- The key that the qualifier selects by. -/
  key : Scope → Run Value
  apply : Scope → Value → Run Value

namespace Step

def id (s : Step) : Int := s.label.id

def walk (scope : Scope) : List Step → Value → Run Value
  | [], v => return v
  | s :: rest, v =>
    if v.isFailure then return v
    else do
      let w ← s.apply scope v
      Run.emit (.qualified s.id)
      walk scope rest (w.withExprId s.id)

/-- The keys of the steps, or the first key that is unknown. -/
def keys (scope : Scope) : List Step → Run (Except Value (List Value))
  | [] => return .ok []
  | s :: rest => do
    let key ← s.key scope
    if key.isUnknown then return .error key
    match ← keys scope rest with
    | .ok ks => return .ok (key :: ks)
    | .error unknown => return .error unknown

def text (steps : List Step) : String :=
  String.join (steps.map fun s =>
    match s.label.field with
    | some name => "." ++ name
    | none => "[..]")

end Step

namespace PatternStep

/-- The id of the last qualifier that a pattern covers, starting from `id`; `none` if the pattern
turns away from the path. -/
def cover (id : Int) : List PatternStep → List (Int × Value) → Option Int
  | p :: ps, (next, v) :: rest => if p.covers v then cover next ps rest else none
  | _, _ => some id

end PatternStep

/-- A variable to resolve: its full names in order, and the steps from its value. -/
structure Variable where
  id : Int
  isLocal : Bool
  names : List String
  steps : List Step

namespace Variable

def written (x : Variable) : String := x.names.getLast?.getD ""

def noSuchAttribute (id : Int) (name : String) : Value :=
  (Value.failure .noSuchAttribute ("no such attribute: " ++ name)).withExprId id

/-- The unknown that a pattern of the scope makes of the variable. -/
def unknown? (x : Variable) (scope : Scope) (name : String) : Run (Option Value) :=
  match scope.patterns.filter (·.name == name) with
  | [] => return none
  | patterns =>
    if x.steps.isEmpty then return some (.unknown (.singleton x.id))
    else do
      match ← Step.keys scope x.steps with
      | .error unknown => return some unknown
      | .ok keys =>
        let path := (x.steps.map Step.id).zip keys
        return (patterns.findSome? fun p => PatternStep.cover x.id p.steps path).map
          fun id => .unknown (.singleton id)

def resolveName? (x : Variable) (provider : Provider) (scope : Scope) (name : String) :
    Run (Option Value) := do
  let marked ← if x.isLocal then pure none else x.unknown? scope name
  match marked with
  | some unknown => return some unknown
  | none =>
    match ← scope.resolve name with
    | some v => some <$> Step.walk scope x.steps v
    | none =>
      match provider.findIdent name with
      | some v =>
        if x.steps.isEmpty then return some v
        else return some (noSuchAttribute x.id (x.written ++ Step.text x.steps))
      | none => return none

def firstSome {α : Type} (f : α → Run (Option Value)) : List α → Run (Option Value)
  | [] => return none
  | a :: rest => do
    match ← f a with
    | some v => return some v
    | none => firstSome f rest

def resolve? (x : Variable) (provider : Provider) (scope : Scope) : Run (Option Value) :=
  firstSome (x.resolveName? provider scope) x.names

def resolve (x : Variable) (provider : Provider) (scope : Scope) : Run Value := do
  return (← x.resolve? provider scope).getD (noSuchAttribute x.id x.written)

/-- The variables that an unchecked name with steps may mean, in order. -/
def ofUnchecked (id : Int) (names : List String) (steps : List Step) : List Variable :=
  (Interpretation.all id names 0 (steps.map Step.label)).map fun i =>
    ⟨i.id, false, i.names, steps.drop i.taken⟩

def resolveUnchecked (id : Int) (names : List String) (steps : List Step) (provider : Provider)
    (scope : Scope) : Run Value := do
  let written := names.getLast?.getD "" ++ Step.text steps
  return (← firstSome (·.resolve? provider scope) (ofUnchecked id names steps)).getD
    (noSuchAttribute id written)

end Variable

end ExprEngine
