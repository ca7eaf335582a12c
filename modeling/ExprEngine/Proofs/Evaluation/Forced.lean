import ExprEngine.Plan.Evaluation
import ExprEngine.Plan.Planner

/-!
# Forced plans

The parts of a plan that may stop early evaluate everything when they are wrapped. A forced plan has
the wrappers that it needs, so its runs are those of the plan that is wrapped throughout: with the
same values, and with the same log.
-/

namespace ExprEngine.Plan

mutual

/-- The plan with everything that may stop early wrapped for exhaustive evaluation. -/
def exhausted : Plan → Plan
  | const id v => const id v
  | attr id a => exhaustive (attr id (exhaustedAttribute a))
  | both id l r => exhaustive (both id (exhausted l) (exhausted r))
  | either id l r => exhaustive (either id (exhausted l) (exhausted r))
  | conditional id g t f => exhaustive (conditional id (exhausted g) (exhausted t) (exhausted f))
  | call id function args overloads => call id function (exhaustedAll args) overloads
  | list id elements => list id (exhaustedAll elements)
  | mapping id entries => mapping id (exhaustedKeyed entries)
  | object id typeName fields => object id typeName (exhaustedFields fields)
  | presence id operand field access => presence id (exhausted operand) field access
  | loop id iterVar range accuVar init condition step result =>
    exhaustive (loop id iterVar (exhausted range) accuVar (exhausted init) (exhausted condition)
      (exhausted step) (exhausted result))
  | membership id element items keys function overloads =>
    membership id (exhausted element) items keys function overloads
  | search id text source pattern function overloads =>
    search id (exhausted text) source pattern function overloads
  | exhaustive inner => exhaustive (exhausted inner)
  | observed inner => observed (exhausted inner)
termination_by structural p => p

def exhaustedAll : List Plan → List Plan
  | [] => []
  | p :: rest => exhausted p :: exhaustedAll rest
termination_by structural ps => ps

def exhaustedKeyed : List (Plan × Plan) → List (Plan × Plan)
  | [] => []
  | (key, value) :: rest => (exhausted key, exhausted value) :: exhaustedKeyed rest
termination_by structural entries => entries

def exhaustedFields : List (String × Plan) → List (String × Plan)
  | [] => []
  | (name, value) :: rest => (name, exhausted value) :: exhaustedFields rest
termination_by structural fields => fields

def exhaustedAttribute : Attribute → Attribute
  | .absolute id isLocal names qs => .absolute id isLocal names (exhaustedQualifiers qs)
  | .ambiguous id names qs => .ambiguous id names (exhaustedQualifiers qs)
  | .relative id operand qs => .relative id (exhausted operand) (exhaustedQualifiers qs)
  | .conditional id g t f =>
    .conditional id (exhausted g) (exhaustedAttribute t) (exhaustedAttribute f)
termination_by structural a => a

def exhaustedQualifiers : List Qualifier → List Qualifier
  | [] => []
  | .field id name access :: rest => .field id name access :: exhaustedQualifiers rest
  | .constant id key :: rest => .constant id key :: exhaustedQualifiers rest
  | .computed id key :: rest => .computed id (exhausted key) :: exhaustedQualifiers rest
termination_by structural qs => qs

end

mutual

/-- Every part that may stop early is wrapped; the plan itself may be so from outside. -/
def Forced : Plan → Bool → Prop
  | const .., _ => True
  | attr id a, wrapped => ((attr id a).mayStopEarly = true → wrapped = true) ∧ ForcedAttribute a
  | both _ l r, wrapped | either _ l r, wrapped =>
    wrapped = true ∧ Forced l false ∧ Forced r false
  | conditional _ g t f, wrapped =>
    wrapped = true ∧ Forced g false ∧ Forced t false ∧ Forced f false
  | call _ _ args _, _ => ForcedAll args
  | list _ elements, _ => ForcedAll elements
  | mapping _ entries, _ => ForcedKeyed entries
  | object _ _ fields, _ => ForcedFields fields
  | presence _ operand _ _, _ => Forced operand false
  | loop _ _ range _ init condition step result, wrapped =>
    wrapped = true ∧ Forced range false ∧ Forced init false ∧ Forced condition false ∧
      Forced step false ∧ Forced result false
  | membership _ operand _ _ _ _, _ | search _ operand _ _ _ _, _ => Forced operand false
  | exhaustive inner, _ => Forced inner true
  | observed inner, _ => Forced inner false
termination_by structural p => p

def ForcedAll : List Plan → Prop
  | [] => True
  | p :: rest => Forced p false ∧ ForcedAll rest
termination_by structural ps => ps

def ForcedKeyed : List (Plan × Plan) → Prop
  | [] => True
  | (key, value) :: rest => Forced key false ∧ Forced value false ∧ ForcedKeyed rest
termination_by structural entries => entries

def ForcedFields : List (String × Plan) → Prop
  | [] => True
  | (_, value) :: rest => Forced value false ∧ ForcedFields rest
termination_by structural fields => fields

def ForcedAttribute : Attribute → Prop
  | .absolute _ _ _ qs | .ambiguous _ _ qs => ForcedQualifiers qs
  | .relative _ operand qs => Forced operand false ∧ ForcedQualifiers qs
  | .conditional _ g t f => Forced g false ∧ ForcedAttribute t ∧ ForcedAttribute f
termination_by structural a => a

def ForcedQualifiers : List Qualifier → Prop
  | [] => True
  | .field .. :: rest | .constant .. :: rest => ForcedQualifiers rest
  | .computed _ key :: rest => Forced key false ∧ ForcedQualifiers rest
termination_by structural qs => qs

end

theorem id_exhausted (p : Plan) : p.exhausted.id = p.id := by
  match p with
  | exhaustive inner | observed inner => exact id_exhausted inner
  | const .. | attr .. | both .. | either .. | conditional .. | call .. | list .. | mapping .. |
    object .. | presence .. | loop .. | membership .. | search .. => rfl

variable [HostObjects]

mutual

/-- A forced plan evaluates everything: it runs as if it were wrapped throughout. -/
theorem eval_exhausted (provider : Provider) {p : Plan} {wrapped : Bool} (forced : p.Forced wrapped)
    (everything : Bool) (scope : Scope) :
    eval provider p wrapped scope = eval provider p.exhausted everything scope := by
  -- What may stop early is wrapped on both sides; all else is the same whatever `everything` says.
  match p with
  | const id v => rfl
  | attr id a =>
    simp only [exhausted, eval, resolve_exhausted provider forced.2 id forced.1 scope]
  | both id l r =>
    obtain ⟨rfl, left, right⟩ := forced
    simp only [exhausted, eval, eval_exhausted provider left false,
      eval_exhausted provider right false]
  | either id l r =>
    obtain ⟨rfl, left, right⟩ := forced
    simp only [exhausted, eval, eval_exhausted provider left false,
      eval_exhausted provider right false]
  | conditional id g t f =>
    obtain ⟨rfl, guard, whenTrue, whenFalse⟩ := forced
    simp only [exhausted, eval, eval_exhausted provider guard false,
      eval_exhausted provider whenTrue false, eval_exhausted provider whenFalse false]
  | call id function args overloads =>
    have args : ForcedAll args := forced
    simp only [exhausted, eval, evalAll_exhausted provider args]
  | list id elements =>
    have elements : ForcedAll elements := forced
    simp only [exhausted, eval, evalAll_exhausted provider elements]
  | mapping id entries =>
    have entries : ForcedKeyed entries := forced
    simp only [exhausted, eval, evalEntries_exhausted provider entries]
  | object id typeName fields =>
    have fields : ForcedFields fields := forced
    simp only [exhausted, eval, evalFields_exhausted provider fields]
  | presence id operand field access =>
    have operand : Forced operand false := forced
    simp only [exhausted, eval, eval_exhausted provider operand false]
  | loop id iterVar range accuVar init condition step result =>
    obtain ⟨rfl, ranged, started, conditioned, stepped, resulted⟩ := forced
    simp only [exhausted, eval, eval_exhausted provider ranged false, id_exhausted,
      eval_exhausted provider started false, eval_exhausted provider conditioned false,
      eval_exhausted provider stepped false, eval_exhausted provider resulted false]
  | membership id element items keys function overloads =>
    have element : Forced element false := forced
    simp only [exhausted, eval, eval_exhausted provider element false]
  | search id text source pattern function overloads =>
    have text : Forced text false := forced
    simp only [exhausted, eval, eval_exhausted provider text false]
  | exhaustive inner =>
    have inner : Forced inner true := forced
    exact eval_exhausted provider inner true scope
  | observed inner =>
    have forced : Forced inner false := forced
    simp only [exhausted, eval, eval_exhausted provider forced false, id_exhausted]

theorem evalAll_exhausted (provider : Provider) {ps : List Plan} (forced : ForcedAll ps)
    (scope : Scope) : evalAll provider ps scope = evalAll provider (exhaustedAll ps) scope := by
  match ps with
  | [] => rfl
  | p :: rest =>
    simp only [exhaustedAll, evalAll, eval_exhausted provider forced.1 false,
      evalAll_exhausted provider forced.2]

theorem evalEntries_exhausted (provider : Provider) {entries : List (Plan × Plan)}
    (forced : ForcedKeyed entries) (scope : Scope) :
    evalEntries provider entries scope = evalEntries provider (exhaustedKeyed entries) scope := by
  match entries with
  | [] => rfl
  | (key, value) :: rest =>
    obtain ⟨keyForced, valueForced, others⟩ := forced
    simp only [exhaustedKeyed, evalEntries, eval_exhausted provider keyForced false,
      eval_exhausted provider valueForced false, evalEntries_exhausted provider others]

theorem evalFields_exhausted (provider : Provider) {fields : List (String × Plan)}
    (forced : ForcedFields fields) (scope : Scope) :
    evalFields provider fields scope = evalFields provider (exhaustedFields fields) scope := by
  match fields with
  | [] => rfl
  | (name, value) :: rest =>
    simp only [exhaustedFields, evalFields, eval_exhausted provider forced.1 false,
      evalFields_exhausted provider forced.2]

theorem resolve_exhausted (provider : Provider) {a : Attribute} (forced : ForcedAttribute a)
    (id : Int) {wrapped : Bool} (wraps : (attr id a).mayStopEarly = true → wrapped = true)
    (scope : Scope) :
    resolve provider a wrapped scope = resolve provider (exhaustedAttribute a) true scope := by
  match a with
  | .absolute _ isLocal names qs =>
    have forced : ForcedQualifiers qs := forced
    simp only [exhaustedAttribute, resolve, steps_exhausted provider forced]
  | .ambiguous _ names qs =>
    have forced : ForcedQualifiers qs := forced
    simp only [exhaustedAttribute, resolve, steps_exhausted provider forced]
  | .relative _ operand qs =>
    simp only [exhaustedAttribute, resolve, eval_exhausted provider forced.1 false,
      steps_exhausted provider forced.2]
  | .conditional _ g t f =>
    obtain ⟨guard, whenTrue, whenFalse⟩ := forced
    obtain rfl := wraps rfl
    simp only [exhaustedAttribute, resolve, ↓reduceIte, eval_exhausted provider guard false,
      resolve_exhausted provider whenTrue id fun _ => rfl,
      resolve_exhausted provider whenFalse id fun _ => rfl]

theorem steps_exhausted (provider : Provider) {qs : List Qualifier} (forced : ForcedQualifiers qs) :
    steps provider qs = steps provider (exhaustedQualifiers qs) := by
  match qs with
  | [] => rfl
  | .field id name access :: rest =>
    have others : ForcedQualifiers rest := forced
    simp only [exhaustedQualifiers, steps, steps_exhausted provider others]
  | .constant id key :: rest =>
    have others : ForcedQualifiers rest := forced
    simp only [exhaustedQualifiers, steps, steps_exhausted provider others]
  | .computed id key :: rest =>
    simp only [exhaustedQualifiers, steps, eval_exhausted provider forced.1 false,
      steps_exhausted provider forced.2]

end

end ExprEngine.Plan
