import ExprEngine.Environment
import ExprEngine.Proofs.Expr.Everywhere
import ExprEngine.Proofs.Meaning.Operation
import ExprEngine.Proofs.Planning.Optimization

/-!
# Flattening

Plans regroup selections: names, fields, indices and branches become references with qualifiers.
`Plan.Mirrors` relates a plan to a meaning, with whatever is still to be selected from it, and
every plan of an unchecked expression mirrors the meaning of the expression.
-/

namespace ExprEngine

namespace Planner

/-- What is selected from each operand, if `trail` is selected from the result of a call. -/
def operandTrail (function : String) (trail : List (Option String)) : Nat → List (Option String)
  | 0 => if function = Operator.index then none :: trail else []
  | _ + 1 => if function = Operator.conditional then trail else []

mutual

/-- Every identifier stands for itself: with the fields that are selected from it, directly or
through branches, it makes no other name, and nothing is selected from the name of a type. -/
def Direct (c : Planner) (base : Scope) : Expr → List String → List (Option String) → Prop
  | .literal .., _, _ => True
  | .ident _ name, locals, trail =>
    name ∈ locals ∨ Variable.Direct base locals c.provider (c.candidates name) trail
  | .select _ operand field, locals, trail => Direct c base operand locals (some field :: trail)
  | .presence _ operand _, locals, _ => Direct c base operand locals []
  | .call _ function args, locals, trail =>
    DirectAll c base args locals (operandTrail function trail)
  | .member _ target _ args, locals, _ =>
    Direct c base target locals [] ∧ DirectAll c base args locals fun _ => []
  | .list _ elements, locals, _ => DirectAll c base elements locals fun _ => []
  | .mapping _ entries, locals, _ | .object _ _ entries, locals, _ => DirectIn c base entries locals
  | .loop _ iterVar range accuVar init condition step result, locals, _ =>
    Direct c base range locals [] ∧ Direct c base init locals [] ∧
      Direct c base condition (iterVar :: accuVar :: locals) [] ∧
      Direct c base step (iterVar :: accuVar :: locals) [] ∧
      Direct c base result (accuVar :: locals) []
termination_by structural e => e

def DirectAll (c : Planner) (base : Scope) :
    List Expr → List String → (Nat → List (Option String)) → Prop
  | [], _, _ => True
  | e :: rest, locals, trails =>
    Direct c base e locals (trails 0) ∧ DirectAll c base rest locals fun n => trails (n + 1)
termination_by structural es => es

def DirectIn (c : Planner) (base : Scope) : List Entry → List String → Prop
  | [], _ => True
  | .field _ _ value :: rest, locals =>
    Direct c base value locals [] ∧ DirectIn c base rest locals
  | .keyed _ key value :: rest, locals =>
    Direct c base key locals [] ∧ Direct c base value locals [] ∧ DirectIn c base rest locals
termination_by structural entries => entries

end

end Planner

namespace Plan

variable [HostObjects] [TrustedObjects]

/-- The plan has the values of a meaning, and whatever is selected from it, where that is `direct`,
is what is selected from the meaning. -/
structure Mirrors (provider : Provider) (base : Scope) (locals : List String) (p : Plan)
    (m : Scope → Value) (direct : List (Option String) → Prop) : Prop where
  value : direct [] → ∀ s t, Scope.Mirrors base locals s t →
    (p.eval provider false s).value.Alike (m t)
  selected : ∀ s t, Scope.Mirrors base locals s t → ∀ qs fs,
    List.Forall₂ (Step.Mirrors s) (steps provider qs) fs →
    direct ((steps provider qs).map fun x => x.label.field) →
    (resolve provider (p.toAttribute.qualifyAll qs) false s).value.Alike (Step.applyAll fs (m t))

variable {provider : Provider} {base : Scope} {locals : List String} {p q r : Plan}
  {m n o : Scope → Value} {direct direct' : List (Option String) → Prop}

theorem Mirrors.of_value (relative : p.toAttribute = .relative p.id p [])
    (value : ∀ trail, direct trail → ∀ s t, Scope.Mirrors base locals s t →
      (p.eval provider false s).value.Alike (m t)) : Mirrors provider base locals p m direct where
  value := value []
  selected s t scopes qs fs applied trail := by
    rw [relative, Attribute.qualifyAll_relative, value_relative]
    exact Step.walk_alike applied (value _ trail s t scopes)

theorem Mirrors.of_attribute {id : Int} {a : Attribute}
    (selected : ∀ s t, Scope.Mirrors base locals s t → ∀ qs fs,
      List.Forall₂ (Step.Mirrors s) (steps provider qs) fs →
      direct ((steps provider qs).map fun x => x.label.field) →
      (resolve provider (a.qualifyAll qs) false s).value.Alike (Step.applyAll fs (m t))) :
    Mirrors provider base locals (attr id a) m direct where
  value trail s t scopes := selected s t scopes [] [] .nil trail
  selected := selected

theorem Mirrors.qualify (mirrors : Mirrors provider base locals p m direct) (id : Int)
    {q : Qualifier} {x : Step} (single : steps provider [q] = [x]) {f : Scope → Value → Value}
    (applied : ∀ trail, direct' trail → ∀ s t, Scope.Mirrors base locals s t →
      Step.Mirrors s x (f t))
    (extend : ∀ trail, direct' trail → direct (x.label.field :: trail)) :
    Mirrors provider base locals (p.qualify id q) (fun t => f t (m t)) direct' := by
  refine Mirrors.of_attribute fun s t scopes qs fs more trail => ?_
  rw [← Attribute.qualifyAll_cons]
  have longer : steps provider (q :: qs) = x :: steps provider qs := by
    rw [steps_cons, single, List.singleton_append]
  refine mirrors.selected s t scopes (q :: qs) (f t :: fs) ?_ ?_
  · rw [longer]
    exact .cons (applied _ trail s t scopes) more
  · rw [longer]
    exact extend _ trail

theorem conditional_mirrors (id : Int) {guarded whenTrue whenFalse : List (Option String) → Prop}
    (guard : Mirrors provider base locals p m guarded)
    (first : Mirrors provider base locals q n whenTrue)
    (second : Mirrors provider base locals r o whenFalse)
    (parts : ∀ trail, direct trail → guarded [] ∧ whenTrue trail ∧ whenFalse trail) :
    Mirrors provider base locals (conditional id p q r) (fun t => Value.select id (m t) (n t) (o t))
      direct where
  value trail s t scopes := by
    obtain ⟨g, w, f⟩ := parts [] trail
    rw [value_conditional]
    exact Value.select_alike id (guard.value g s t scopes) (first.value w s t scopes)
      (second.value f s t scopes)
  selected s t scopes qs fs applied trail := by
    obtain ⟨g, w, f⟩ := parts _ trail
    rw [toAttribute, Attribute.qualifyAll_conditional, value_conditionalAttribute]
    have decided := guard.value g s t scopes
    rw [Step.applyAll_select applied id decided]
    exact Value.select_alike id decided (first.selected s t scopes qs fs applied w)
      (second.selected s t scopes qs fs applied f)

end Plan

namespace Planner

open Planning

open Plan hiding id

theorem operandTrail_plain {function : String} (plain : operandCount? function = none)
    (trail : List (Option String)) : operandTrail function trail = fun _ => [] := by
  unfold operandCount? at plain
  split at plain
  · cases plain
  · next notConditional =>
    split at plain
    · cases plain
    · next others =>
      funext n
      cases n with
      | zero =>
        have notIndex : function ≠ Operator.index := fun same => others (.inr (.inr same))
        simp [operandTrail, notIndex]
      | succ n => simp [operandTrail, notConditional]

variable [HostObjects] {c : Planner} {base : Scope}

theorem operate_plain {function : String} (plain : operandCount? function = none) (id : Int)
    (values : List Value) :
    c.operate id function values =
      Value.called id function (c.reachable function values.length) values := by
  unfold operandCount? at plain
  split at plain
  · cases plain
  · next notConditional =>
    split at plain
    · cases plain
    · next others =>
      simp only [not_or] at others
      unfold operate
      simp only [notConditional, others, ↓reduceIte]
      split <;> rfl

variable [TrustedObjects]

/-- Nothing is folded, wrapped or annotated, and calls go to the standard library. -/
structure Plain (c : Planner) : Prop where
  options : c.options = {}
  registry : c.registry = Registry.standard
  references : c.checked.references = []
  types : c.checked.types = []
  provider : c.provider.KeepsWhole

theorem Plain.finished (plain : c.Plain) (p : Plan) : c.finished p = p := by
  simp [Planner.finished, plain.options, decorate, PlanOptions.observes]

theorem Plain.reference? (plain : c.Plain) (id : Int) : c.checked.reference? id = none := by
  rw [CheckedExpr.reference?, plain.references]
  rfl

theorem Plain.fieldAccess (plain : c.Plain) (operand : Int) (field : String) :
    c.fieldAccess operand field = none := by
  rw [Planner.fieldAccess, CheckedExpr.type?, plain.types]
  rfl

def LiteralWhole : Expr → List String → Prop
  | .literal _ v, _ => v.isWhole = true
  | _, _ => True

theorem identPlan_mirrors (plain : c.Plain) (id : Int) (name : String) (locals : List String) :
    (c.identPlan locals id name).Mirrors c.provider base locals
      (fun t => c.meaning (.ident id name) locals t) (c.Direct base (.ident id name) locals) := by
  unfold identPlan
  rw [plain.reference?]
  by_cases bound : name ∈ locals
  · simp only [bound, ↓reduceIte]
    refine Mirrors.of_attribute fun s t scopes qs fs applied _ => ?_
    rw [Attribute.qualifyAll_absolute]
    simp only [meaning, namesOf, bound, ↓reduceIte]
    exact Variable.resolve_local_alike scopes applied id bound
  · simp only [bound, ↓reduceIte]
    refine Mirrors.of_attribute fun s t scopes qs fs applied direct => ?_
    rw [Attribute.qualifyAll_ambiguous]
    simp only [meaning, namesOf, bound, ↓reduceIte]
    exact Variable.resolveUnchecked_alike scopes plain.provider.findIdent applied id
      (direct.resolve_left bound)

theorem loop_mirrors (id : Int) (iterVar accuVar : String) {locals : List String}
    {range init condition step result : Expr} {o i w p r : Plan} (named : o.id = range.id)
    (ranged : o.Mirrors c.provider base locals (fun t => c.meaning range locals t)
      (c.Direct base range locals))
    (started : i.Mirrors c.provider base locals (fun t => c.meaning init locals t)
      (c.Direct base init locals))
    (checked : w.Mirrors c.provider base (iterVar :: accuVar :: locals)
      (fun t => c.meaning condition (iterVar :: accuVar :: locals) t)
      (c.Direct base condition (iterVar :: accuVar :: locals)))
    (stepped : p.Mirrors c.provider base (iterVar :: accuVar :: locals)
      (fun t => c.meaning step (iterVar :: accuVar :: locals) t)
      (c.Direct base step (iterVar :: accuVar :: locals)))
    (ended : r.Mirrors c.provider base (accuVar :: locals)
      (fun t => c.meaning result (accuVar :: locals) t)
      (c.Direct base result (accuVar :: locals))) :
    (Plan.loop id iterVar o accuVar i w p r).Mirrors c.provider base locals
      (fun t => c.meaning (.loop id iterVar range accuVar init condition step result) locals t)
      (c.Direct base (.loop id iterVar range accuVar init condition step result) locals) := by
  refine .of_value rfl fun trail direct s t scopes => ?_
  obtain ⟨rangeDirect, initDirect, conditionDirect, stepDirect, resultDirect⟩ := direct
  have first := ranged.value rangeDirect s t scopes
  have start := started.value initDirect s t scopes
  rw [value_loop, named]
  simp only [meaning, ← first.isFailure]
  split
  · exact first
  · next regular =>
    have whole := first.whole (by simpa using regular)
    have same : (o.eval c.provider false s).value = c.meaning range locals t :=
      first.eq (by
        cases failed : (o.eval c.provider false s).value <;>
          simp_all [Value.isFailure, Value.isError])
    rw [← same]
    cases elements : (o.eval c.provider false s).value.elements? with
    | none => exact Value.alike_withExprId (Value.failure_fresh _ _).settled range.id
    | some items =>
      have inside : ∀ v u x, v.Alike u → x ∈ items →
          Scope.Mirrors base (iterVar :: accuVar :: locals) (Plan.inside s accuVar iterVar v x)
            (Plan.inside t accuVar iterVar u x) := fun v u x alike member =>
        (scopes.frame accuVar alike).frame iterVar
          (Value.alike_of_whole (Value.elements_whole whole elements x member))
      have ends : LoopAlike
          (iterate false (fun v x => eval c.provider w false (Plan.inside s accuVar iterVar v x))
            (fun v x => eval c.provider p false (Plan.inside s accuVar iterVar v x)) items
            (eval c.provider i false s).value).value
          (iterate false
            (fun v x => pure (c.meaning condition (iterVar :: accuVar :: locals)
              (Plan.inside t accuVar iterVar v x)))
            (fun v x => pure (c.meaning step (iterVar :: accuVar :: locals)
              (Plan.inside t accuVar iterVar v x))) items (c.meaning init locals t)).value :=
        iterate_alike
          (fun v u x alike member => checked.value conditionDirect _ _ (inside v u x alike member))
          (fun v u x alike member => stepped.value stepDirect _ _ (inside v u x alike member)) start
      -- How the two loops end is all that the result depends on.
      revert ends
      simp only
      generalize (iterate false _ _ items (eval c.provider i false s).value).value = left
      generalize (iterate false _ _ items (c.meaning init locals t)).value = right
      intro ends
      cases ends with
      | ok alike => exact ended.value resultDirect _ _ (scopes.frame accuVar alike)
      | error alike => exact alike

theorem called_mirrors [TrustedObjects.Sound] (plain : c.Plain) (id : Int) (function : String)
    {vs ws : List Value} (alike : List.Forall₂ Value.Alike vs ws) :
    (Value.called id function (c.reachable function vs.length) vs).Alike
      (Value.called id function (c.reachable function ws.length) ws) := by
  rw [← alike.length_eq, reachable, plain.registry]
  exact Value.called_alike id alike

theorem indexed_mirrors [TrustedObjects.Sound] (id : Int) {locals : List String} {p q : Plan}
    {a b : Expr}
    (operand : p.Mirrors c.provider base locals (fun t => c.meaning a locals t)
      (c.Direct base a locals))
    (key : q.Mirrors c.provider base locals (fun t => c.meaning b locals t)
      (c.Direct base b locals)) :
    (p.indexed id q).Mirrors c.provider base locals
      (fun t => c.meaning (.call id Operator.index [a, b]) locals t)
      (c.Direct base (.call id Operator.index [a, b]) locals) := by
  have extend : ∀ trail, c.Direct base (.call id Operator.index [a, b]) locals trail →
      c.Direct base a locals (none :: trail) := fun trail direct => direct.1
  unfold indexed
  cases constant : q.asConst? with
  | some v =>
    refine operand.qualify id (f := fun t w => (w.index (c.meaning b locals t)).withExprId id) rfl
      (fun trail direct s t scopes => ?_) extend
    have keys := key.value direct.2.1 s t scopes
    rw [value_of_asConst constant] at keys
    exact Step.mirrors_index (k := v) (fun w => Value.indexConstant_eq w v) keys
  | none =>
    refine operand.qualify id (f := fun t w => (w.index (c.meaning b locals t)).withExprId id) rfl
      (fun trail direct s t scopes => ?_) extend
    exact Step.mirrors_index (fun w => rfl) (key.value direct.2.1 s t scopes)

mutual

theorem mirrors_of_planned [TrustedObjects.Sound] (plain : c.Plain) {e : Expr}
    {locals : List String} {p : Plan} (planned : Planned c e locals p)
    (literals : e.Everywhere LiteralWhole locals) :
    p.Mirrors c.provider base locals (fun t => c.meaning e locals t) (c.Direct base e locals) := by
  -- `Mirrors` also tells what selections from the plan come to, which is all that the plan of a
  -- selection needs of its operand, however the two are regrouped.
  match planned with
  | .literal =>
    rw [plain.finished]
    exact .of_value rfl fun _ _ _ _ _ => Value.alike_of_whole literals
  | .ident =>
    rw [plain.finished]
    exact identPlan_mirrors plain _ _ locals
  | .resolved known =>
    rw [isResolved, plain.reference?] at known
    cases known
  | @Planned.select _ _ id operand field _ _ _ operandPlanned =>
    rw [plain.finished, plain.fieldAccess]
    exact (mirrors_of_planned plain operandPlanned literals.2).qualify id
      (f := fun _ w => (w.selectField (.string field)).withExprId id) rfl
      (fun _ _ s _ _ => Step.mirrors_field s id field) fun _ direct => direct
  | @Planned.presence _ _ id operand field _ _ operandPlanned =>
    rw [plain.finished, plain.fieldAccess]
    refine .of_value rfl fun _ direct s t scopes => ?_
    have alike := (mirrors_of_planned plain operandPlanned literals.2).value direct s t scopes
    rw [value_presence]
    have tested : ∀ v : Value, v.testField id field none = (v.hasField field).withExprId id := by
      intro v
      cases v <;> rfl
    rw [tested]
    exact Value.hasField_alike alike field id
  | @Planned.both _ _ id _ _ _ _ _ left right =>
    rw [plain.finished]
    refine .of_value rfl fun _ direct s t scopes => ?_
    rw [value_both]
    exact Value.combine_alike id false
      ((mirrors_of_planned plain left literals.2.1).value direct.1 s t scopes)
      ((mirrors_of_planned plain right literals.2.2.1).value direct.2.1 s t scopes)
  | @Planned.either _ _ id _ _ _ _ _ left right =>
    rw [plain.finished]
    refine .of_value rfl fun _ direct s t scopes => ?_
    rw [value_either]
    exact Value.combine_alike id true
      ((mirrors_of_planned plain left literals.2.1).value direct.1 s t scopes)
      ((mirrors_of_planned plain right literals.2.2.1).value direct.2.1 s t scopes)
  | @Planned.index _ _ id _ _ _ _ _ operand key =>
    rw [plain.finished]
    exact indexed_mirrors id (mirrors_of_planned plain operand literals.2.1)
      (mirrors_of_planned plain key literals.2.2.1)
  | @Planned.conditional _ _ id _ _ _ _ _ _ _ guard whenTrue whenFalse =>
    rw [plain.finished]
    exact conditional_mirrors id (mirrors_of_planned plain guard literals.2.1)
      (mirrors_of_planned plain whenTrue literals.2.2.1)
      (mirrors_of_planned plain whenFalse literals.2.2.2.1)
      fun _ direct => ⟨direct.1, direct.2.1, direct.2.2.1⟩
  | @Planned.call _ _ id function args _ _ operator args' =>
    rw [plain.finished]
    refine .of_value rfl fun trail direct s t scopes => ?_
    rw [Direct, operandTrail_plain operator] at direct
    have alike := alike_of_plannedAll plain args' literals.2 direct s t scopes
    have same := called_mirrors plain id function alike
    rw [List.length_map] at same
    rw [value_call]
    simp only [meaning, operate_plain operator]
    exact same
  | @Planned.member _ _ id _ function _ _ _ _ operator target args' =>
    rw [plain.finished]
    refine .of_value rfl fun trail direct s t scopes => ?_
    have alike := alike_of_plannedAll plain args' literals.2.2 direct.2 s t scopes
    have first := (mirrors_of_planned plain target literals.2.1).value direct.1 s t scopes
    have same := called_mirrors plain id function (.cons first alike)
    rw [List.length_cons, List.length_map] at same
    rw [value_call]
    exact same
  | .list elements =>
    rw [plain.finished]
    refine .of_value rfl fun trail direct s t scopes => ?_
    rw [value_list]
    exact Value.list_alike (alike_of_plannedAll plain elements literals.2 direct s t scopes)
  | .mapping entries =>
    rw [plain.finished]
    refine .of_value rfl fun trail direct s t scopes => ?_
    rw [value_mapping]
    exact Value.mapOf_alike _ (alike_of_plannedKeyed plain entries literals.2 direct s t scopes)
  | .object named fields =>
    rw [plain.finished]
    refine .of_value rfl fun trail direct s t scopes => ?_
    rw [value_object]
    simp only [meaning, constructed, named]
    exact Value.construct_alike plain.provider _ _
      (alike_of_plannedFields plain fields literals.2 direct s t scopes)
  | .loop range init condition step result =>
    rw [plain.finished]
    have named := (id_of_planned range).resolve_right fun h => by
      rw [plain.options] at h
      cases h.1
    exact loop_mirrors _ _ _ named (mirrors_of_planned plain range literals.2.1)
      (mirrors_of_planned plain init literals.2.2.1)
      (mirrors_of_planned plain condition literals.2.2.2.1)
      (mirrors_of_planned plain step literals.2.2.2.2.1)
      (mirrors_of_planned plain result literals.2.2.2.2.2)

theorem alike_of_plannedAll [TrustedObjects.Sound] (plain : c.Plain) {es : List Expr}
    {locals : List String} {ps : List Plan} (planned : PlannedAll c es locals ps)
    (literals : Expr.EverywhereAll LiteralWhole es locals)
    (direct : c.DirectAll base es locals fun _ => []) (s t : Scope)
    (scopes : Scope.Mirrors base locals s t) :
    List.Forall₂ Value.Alike (ps.map fun p => (p.eval c.provider false s).value)
      (c.meanings es locals t) := by
  match planned with
  | .nil => exact .nil
  | .cons first others =>
    exact .cons ((mirrors_of_planned plain first literals.1).value direct.1 s t scopes)
      (alike_of_plannedAll plain others literals.2 direct.2 s t scopes)

theorem alike_of_plannedKeyed [TrustedObjects.Sound] (plain : c.Plain) {entries : List Entry}
    {locals : List String} {ps : List (Plan × Plan)} (planned : PlannedKeyed c entries locals ps)
    (literals : Expr.EverywhereIn LiteralWhole entries locals)
    (direct : c.DirectIn base entries locals) (s t : Scope)
    (scopes : Scope.Mirrors base locals s t) :
    List.Forall₂ (fun v w => v.1.Alike w.1 ∧ v.2.Alike w.2)
      (ps.map fun p => ((p.1.eval c.provider false s).value, (p.2.eval c.provider false s).value))
      (c.keyedMeanings entries locals t) := by
  match planned with
  | .nil => exact .nil
  | .cons key value others =>
    exact .cons ⟨(mirrors_of_planned plain key literals.1).value direct.1 s t scopes,
        (mirrors_of_planned plain value literals.2.1).value direct.2.1 s t scopes⟩
      (alike_of_plannedKeyed plain others literals.2.2 direct.2.2 s t scopes)

theorem alike_of_plannedFields [TrustedObjects.Sound] (plain : c.Plain) {entries : List Entry}
    {locals : List String} {ps : List (String × Plan)} (planned : PlannedFields c entries locals ps)
    (literals : Expr.EverywhereIn LiteralWhole entries locals)
    (direct : c.DirectIn base entries locals) (s t : Scope)
    (scopes : Scope.Mirrors base locals s t) :
    List.Forall₂ (fun v w => v.1 = w.1 ∧ v.2.Alike w.2)
      (ps.map fun p => (p.1, (p.2.eval c.provider false s).value))
      (c.fieldMeanings entries locals t) := by
  match planned with
  | .nil => exact .nil
  | .cons value others =>
    exact .cons ⟨rfl, (mirrors_of_planned plain value literals.1).value direct.1 s t scopes⟩
      (alike_of_plannedFields plain others literals.2 direct.2 s t scopes)

end

end Planner

namespace Environment

open Planning

/-- A program has the meaning of its expression: the regrouping of selections cannot be seen,
where every identifier stands for itself. -/
theorem flattening_invisible [HostObjects] [TrustedObjects] [TrustedObjects.Sound]
    (env : Environment) (standard : env.registry = Registry.standard)
    (unfolded : env.options = {}) (provider : env.provider.KeepsWhole) (e : Expr)
    (literals : e.Everywhere Planner.LiteralWhole []) {program : Program}
    (planned : outcome (env.plan (.unchecked e)) = .ok program) {scope : Scope}
    (plain : scope.patterns = [])
    (whole : ∀ name v, (scope.resolve name).value = some v → v.isWhole = true)
    (direct : (env.planner (.unchecked e)).Direct scope e [] []) :
    (program.eval scope).value.Alike ((env.planner (.unchecked e)).meaning e [] scope) := by
  obtain ⟨made, provided⟩ := plan_ok planned
  have settings : (env.planner (.unchecked e)).Plain := ⟨unfolded, standard, rfl, rfl, provider⟩
  have mirrors : program.root.Mirrors program.provider scope [] _ _ :=
    provided ▸ Planner.mirrors_of_planned settings (Planner.planned_of_outcome _ _ _ made) literals
  have same : Scope.Mirrors scope [] scope scope := by
    refine ⟨plain, fun name binds => ?_, fun name free => ?_⟩
    · obtain ⟨v, found⟩ := Option.isSome_iff_exists.mp (binds.resolve_left (by simp))
      exact ⟨v, v, found, found, Value.alike_of_whole (whole name v found)⟩
    · have unbound := Option.not_isSome_iff_eq_none.mp fun bound => free (.inr bound)
      exact ⟨unbound, unbound⟩
  exact mirrors.value direct scope scope same

attribute [local instance] HostObjects.accounts TrustedObjects.accounts
  TrustedObjects.accounts_sound

/-- `(x.isOverdrawn() ? a : b).c[x.balance]` -/
def chosenElement : Expr :=
  .call 9 "_[_]" [.select 6 (.call 5 "_?_:_" [.member 2 (.ident 1 "x") "isOverdrawn" [],
    .ident 3 "a", .ident 4 "b"]) "c", .select 8 (.ident 7 "x") "balance"]

/-- Binds `x` to an account, and `b` to a map that has a list under `c`. -/
def accountAndMap : Scope :=
  .function fun name =>
    if name = "x" then some (.account "ada" 1)
    else if name = "b" then some (.map (Entries.single (.string "c") (.list [.int 5, .int 6])))
    else none

theorem chosenElement_flattened :
    ∃ program, outcome (({} : Environment).plan (.unchecked chosenElement)) = .ok program ∧
      (program.eval accountAndMap).value.Alike
        ((({} : Environment).planner (.unchecked chosenElement)).meaning chosenElement []
          accountAndMap) := by
  have plans : (outcome (({} : Environment).plan (.unchecked chosenElement))).toOption.isSome =
      true := by
    decide +kernel
  cases planned : outcome (({} : Environment).plan (.unchecked chosenElement)) with
  | error e =>
    rw [planned] at plans
    cases plans
  | ok program =>
    have standard : ({} : Environment).registry = Registry.standard := by dsimp only
    have unfolded : ({} : Environment).options = {} := rfl
    have provider : TypeTable.empty.provider.KeepsWhole :=
      TypeTable.provider_keepsWhole fun t member => by cases member
    refine ⟨program, rfl, flattening_invisible {} standard unfolded provider chosenElement ?_
      planned rfl ?_ ?_⟩
    · simp [chosenElement, Expr.Everywhere, Expr.EverywhereAll, Planner.LiteralWhole]
    · intro name v found
      simp only [accountAndMap, Scope.resolve, Run.value_pure] at found
      split at found
      · obtain rfl := Option.some.inj found
        rfl
      · split at found
        · obtain rfl := Option.some.inj found
          rfl
        · cases found
    · simp only [chosenElement, Planner.Direct, Planner.DirectAll, and_true]
      refine ⟨⟨?guard, ?first, ?second⟩, ?key⟩
      all_goals exact .inr (Variable.direct_of_free (by decide +kernel) (by decide +kernel))

/-- `(g ? int : null).f` -/
def typeBranch : Expr :=
  .select 5 (.call 4 "_?_:_" [.ident 1 "g", .ident 2 "int", .literal 3 .null]) "f"

def guardTrue : Scope := .function fun name => if name = "g" then some (.bool true) else none

theorem typeBranch_apart :
    (∀ name ∈ ["g.f", "int.f"], (guardTrue.resolve name).value.isSome = false ∧
      (({} : Environment).provider.findIdent name).isSome = false) ∧
    ∃ program, outcome (({} : Environment).plan (.unchecked typeBranch)) = .ok program ∧
      ¬ (program.eval guardTrue).value.Alike
        ((({} : Environment).planner (.unchecked typeBranch)).meaning typeBranch [] guardTrue) := by
  refine ⟨by decide +kernel, ?_⟩
  have flattened : (outcome (({} : Environment).plan (.unchecked typeBranch))).toOption.map
      (fun program => (program.eval guardTrue).value.asError?.map EvalError.kind) =
        some (some .noSuchAttribute) := by
    decide +kernel
  have meant : ((({} : Environment).planner (.unchecked typeBranch)).meaning typeBranch []
      guardTrue).asError?.map EvalError.kind = some .noSuchField := by
    decide +kernel
  cases planned : outcome (({} : Environment).plan (.unchecked typeBranch)) with
  | error e =>
    rw [planned] at flattened
    cases flattened
  | ok program =>
    rw [planned] at flattened
    refine ⟨program, rfl, fun alike => ?_⟩
    have kinds := (Option.some.inj flattened).symm.trans (alike.kind.trans meant)
    cases kinds

end Environment

end ExprEngine
