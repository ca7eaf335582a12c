import ExprEngine.Overload.Operator
import ExprEngine.Plan.Evaluation
import ExprEngine.Regex.Reading

/-!
# Folding

A plan whose inputs are constants becomes a constant, unless it evaluates to a failure. Calls with
a constant list or pattern are prepared for it.
-/

namespace ExprEngine.Plan

variable [HostObjects]

def knownBranch? : Plan → Option Plan
  | conditional _ g t f =>
    match g.asConst?.bind Value.asBool? with
    | some true => some t
    | some false => some f
    | none => none
  | _ => none

/-- Whether the plan can be evaluated before any scope is known. -/
def isFoldable : Plan → Bool
  | call _ _ args _ => args.all isConst
  | both _ l r | either _ l r => l.isConst && r.isConst
  | list _ elements => elements.all isConst
  | mapping _ entries => entries.all fun (k, v) => k.isConst && v.isConst
  | _ => false

def keysOf? : List Value → Option (List Key)
  | [] => some []
  | v :: rest => do
    let k ← Key.ofValue? v
    let ks ← keysOf? rest
    return k :: ks

/-- A strict call of membership in a constant list, or of a search for a constant pattern. -/
def prepareCall (id : Int) (function : String) (args : List Plan) (overloads : List Overload) :
    Plan :=
  let plain := call id function args overloads
  if overloads.any Overload.nonStrict then plain
  else match args with
    | [operand, constant] =>
      match constant.asConst? with
      | some (.list items) =>
        if function = Operator.member ∨ function = Operator.memberOld then
          match keysOf? items with
          | some keys => membership id operand items keys.eraseDups function overloads
          | none => plain
        else plain
      | some (.string source) =>
        if function = Operator.search then
          match Regex.Pattern.read? source with
          | some pattern => search id operand source pattern function overloads
          | none => plain
        else plain
      | _ => plain
    | _ => plain

def prepare : Plan → Plan
  | call id function args overloads => prepareCall id function args overloads
  | p => p

def fold (provider : Provider) (p : Plan) : Run Plan :=
  match p.knownBranch? with
  | some branch => return branch
  | none =>
    if p.isFoldable then do
      let v ← p.eval provider false .empty
      return if v.isFailure then p else const p.id v
    else return p.prepare

end ExprEngine.Plan
