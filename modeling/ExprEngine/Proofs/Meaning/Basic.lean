import ExprEngine.Proofs.Evaluation.Value
import ExprEngine.Proofs.Planning.Outcome

/-!
# Meaning of expressions

The value of an expression by recursion on the expression: every selection is applied to the value
of its operand, every operation to the values of its operands. Nothing is planned.
-/

namespace ExprEngine

/-- The value of the first name that is bound or that the provider knows. -/
def Scope.named? (s : Scope) (provider : Provider) (names : List String) : Option Value :=
  names.findSome? fun name => (s.resolve name).value.or (provider.findIdent name)

namespace Planner

variable [HostObjects]

variable (c : Planner)

/-- The names that an identifier may stand for. -/
def namesOf (locals : List String) (name : String) : List String :=
  if name ∈ locals then [name] else c.candidates name

def operate (id : Int) (function : String) (values : List Value) : Value :=
  let call := Value.called id function (c.reachable function values.length) values
  match values with
  | [a, b] =>
    if function = Operator.logicalAnd then Value.combine id false a b
    else if function = Operator.logicalOr then Value.combine id true a b
    else if function = Operator.index then (a.index b).withExprId id
    else call
  | [g, t, f] => if function = Operator.conditional then Value.select id g t f else call
  | _ => call

def constructed (id : Int) (name : String) (fields : List (String × Value)) : Value :=
  match Planning.outcome (c.typeName id name) with
  | .ok full =>
    Value.strict (fields.map Prod.snd) ((c.provider.construct full fields).withExprId id)
  | .error e => .failure .internal e.message

mutual

/-- The value of an expression inside loops that bind `locals`. -/
def meaning (c : Planner) : Expr → List String → Scope → Value
  | .literal _ v, _, _ => v
  | .ident id name, locals, scope =>
    let names := c.namesOf locals name
    (scope.named? c.provider names).getD (Variable.noSuchAttribute id (names.getLast?.getD ""))
  | .select id operand field, locals, scope =>
    ((meaning c operand locals scope).selectField (.string field)).withExprId id
  | .presence id operand field, locals, scope =>
    ((meaning c operand locals scope).hasField field).withExprId id
  | .call id function args, locals, scope => c.operate id function (meanings c args locals scope)
  | .member id target function args, locals, scope =>
    let values := meaning c target locals scope :: meanings c args locals scope
    Value.called id function (c.reachable function values.length) values
  | .list _ elements, locals, scope =>
    let values := meanings c elements locals scope
    Value.strict values (.list values)
  | .mapping id entries, locals, scope =>
    let pairs := keyedMeanings c entries locals scope
    Value.strict (pairs.flatMap fun p => [p.1, p.2]) ((Value.mapOf pairs).withExprId id)
  | .object id name entries, locals, scope =>
    c.constructed id name (fieldMeanings c entries locals scope)
  | .loop _ iterVar range accuVar init condition step result, locals, scope =>
    let ranged := meaning c range locals scope
    if ranged.isFailure then ranged
    else match ranged.elements? with
      | none => Value.notIterable range.id ranged
      | some elements =>
        let inside := Plan.inside scope accuVar iterVar
        match (iterate false
          (fun accu x => pure (meaning c condition (iterVar :: accuVar :: locals) (inside accu x)))
          (fun accu x => pure (meaning c step (iterVar :: accuVar :: locals) (inside accu x)))
          elements (meaning c init locals scope)).value with
        | .ok accu => meaning c result (accuVar :: locals) (.frame scope accuVar accu)
        | .error e => e
termination_by structural e => e

def meanings (c : Planner) : List Expr → List String → Scope → List Value
  | [], _, _ => []
  | e :: rest, locals, scope => meaning c e locals scope :: meanings c rest locals scope
termination_by structural es => es

def keyedMeanings (c : Planner) : List Entry → List String → Scope → List (Value × Value)
  | [], _, _ => []
  | .field .. :: rest, locals, scope => keyedMeanings c rest locals scope
  | .keyed _ key value :: rest, locals, scope =>
    (meaning c key locals scope, meaning c value locals scope) :: keyedMeanings c rest locals scope
termination_by structural entries => entries

def fieldMeanings (c : Planner) : List Entry → List String → Scope → List (String × Value)
  | [], _, _ => []
  | .keyed .. :: rest, locals, scope => fieldMeanings c rest locals scope
  | .field _ name value :: rest, locals, scope =>
    (name, meaning c value locals scope) :: fieldMeanings c rest locals scope
termination_by structural entries => entries

end

end Planner

end ExprEngine
