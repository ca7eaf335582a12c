import ExprEngine.Plan.Basic

/-!
# Cost of plans

Bounds on the work that one evaluation of a plan does, found without evaluating it.
-/

namespace ExprEngine.Plan

def callCost (overloads : List Overload) (sizes : List (Option Nat)) : Cost :=
  (Cost.anyOf? (overloads.map (·.callCost sizes))).getD .one

/-- The first operand alone, or both and their combination. -/
def shortCircuitCost (left right : Cost) : Cost :=
  ⟨left.min, Cost.clamp (left.max + right.max + 1)⟩

mutual

def cost : Plan → Cost
  | const .. => .zero
  | attr _ a => attributeCost a
  | both _ l r | either _ l r => shortCircuitCost (cost l) (cost r)
  | conditional _ g t f => cost g + (cost t).either (cost f)
  | call _ _ args overloads => .sum (costs args) + callCost overloads (args.map sizeHint?)
  | list _ elements => .sum (costs elements)
  | mapping _ entries => .sum (entryCosts entries)
  | object _ _ fields => .sum (fieldCosts fields)
  | presence _ operand _ _ => cost operand + .one
  | loop _ _ range _ init condition step result =>
    cost range + cost init + (cost condition + cost step).repeated range.sizeHint? + cost result
  | membership _ element _ _ _ _ => cost element + .one
  | search _ text _ _ _ overloads => cost text + callCost overloads [text.sizeHint?, none]
  | exhaustive (both _ l r) | exhaustive (either _ l r) => cost l + cost r + .one
  | exhaustive (conditional _ g t f) => cost g + cost t + cost f
  | exhaustive inner => cost inner
  | observed inner => cost inner
termination_by structural p => p

def costs : List Plan → List Cost
  | [] => []
  | p :: rest => cost p :: costs rest
termination_by structural ps => ps

def entryCosts : List (Plan × Plan) → List Cost
  | [] => []
  | (k, v) :: rest => (cost k + cost v) :: entryCosts rest
termination_by structural entries => entries

def fieldCosts : List (String × Plan) → List Cost
  | [] => []
  | (_, v) :: rest => cost v :: fieldCosts rest
termination_by structural fields => fields

def attributeCost : Attribute → Cost
  | .absolute _ _ _ qs => .sum (qualifierCosts qs)
  | .ambiguous id names qs =>
    let each := qualifierCosts qs
    let all := Interpretation.all id names 0 (qs.map Qualifier.label)
    (Cost.anyOf? (all.map fun i => .sum (each.drop i.taken))).getD .zero
  | .relative _ operand qs => cost operand + .sum (qualifierCosts qs)
  | .conditional _ g t f => cost g + (attributeCost t).either (attributeCost f)
termination_by structural a => a

def qualifierCosts : List Qualifier → List Cost
  | [] => []
  | .field .. :: rest => .one :: qualifierCosts rest
  | .constant .. :: rest => .one :: qualifierCosts rest
  | .computed _ key :: rest => (cost key + .one) :: qualifierCosts rest
termination_by structural qs => qs

end

end ExprEngine.Plan
