import ExprEngine.Proofs.Meaning.Selection
import ExprEngine.Proofs.Recording.Planned
import ExprEngine.Proofs.Scope.Readings

/-!
# Selections from conditionals

A field that is selected from a conditional goes into the branches. There it is selected from the
value of the branch that counts, with one exception: where the branch is an unchecked name, the
field may also make the name longer, and a variable of the longer name hides that value.
-/

namespace ExprEngine

namespace Value

variable {v w : Value}

/-- The same value, or errors of one kind. -/
def SameKind (v w : Value) : Prop :=
  v = w ∨ ∃ e f, v = error e ∧ w = error f ∧ e.kind = f.kind

theorem SameKind.refl (v : Value) : v.SameKind v := .inl rfl

theorem withExprId_sameKind (v : Value) (id : Int) : (v.withExprId id).SameKind v := by
  cases v with
  | error e => exact .inr ⟨e.withExprId id, e, rfl, rfl, rfl⟩
  | _ => exact .inl rfl

theorem selectField_of_isFailure [HostObjects] (failed : v.isFailure = true) (field : Key) :
    v.selectField field = v := by
  cases v with
  | error | unknown => rfl
  | _ => cases failed

/-- Names that are not found are errors of one kind, however they are written. -/
theorem noSuchAttribute_sameKind (id other : Int) (name written : String) :
    (Variable.noSuchAttribute id name).SameKind (Variable.noSuchAttribute other written) :=
  .inr ⟨_, _, rfl, rfl, rfl⟩

theorem isFailure_unguided (id : Int) (guard : Value) : (unguided id guard).isFailure = true := by
  unfold unguided
  split
  · assumption
  · rfl

end Value

section

variable [HostObjects]

namespace Step

omit [HostObjects] in
theorem value_walk_append (scope : Scope) (first rest : List Step) (v : Value) :
    (walk scope (first ++ rest) v).value = (walk scope rest (walk scope first v).value).value := by
  induction first generalizing v with
  | nil => rfl
  | cons s others ih =>
    rw [List.cons_append, value_walk_cons, value_walk_cons]
    split
    · next failed => exact (walk_of_failure scope rest failed).symm
    · exact ih _

theorem walk_field_sameKind (provider : Provider) (scope : Scope) (id : Int) (field : String)
    (v : Value) :
    (walk scope (Plan.steps provider [.field id field none]) v).value.SameKind
      (v.selectField (.string field)) := by
  have read : v.readField field none = v.selectField (.string field) := by cases v <;> rfl
  change ((walk scope [_] v).value).SameKind _
  rw [value_walk_cons]
  split
  · next failed =>
    rw [Value.selectField_of_isFailure failed]
    exact .refl v
  · rw [← read]
    exact Value.withExprId_sameKind _ id

end Step

/-! ### Attempts -/

namespace Scope

/-- Whether the name is bound, or a type. -/
def knows (s : Scope) (provider : Provider) (name : String) : Bool :=
  (s.resolve name).value.isSome || (provider.findIdent name).isSome

end Scope

namespace Reading

variable (provider : Provider) (scope : Scope)

/-- What the reading leads to under one of its names, apart from patterns. -/
def bound? (r : Reading) (name : String) : Option Value :=
  match (scope.resolve name).value with
  | some v => some (Step.walk scope (Plan.steps provider r.qualifiers) v).value
  | none => (r.variableOf provider).unbound? provider name

theorem isSome_bound? (r : Reading) (name : String) :
    (r.bound? provider scope name).isSome = scope.knows provider name := by
  unfold bound? Scope.knows
  cases (scope.resolve name).value with
  | some v => rfl
  | none => simp [Variable.unbound?]

theorem bound?_eq_none {provider : Provider} {scope : Scope} {r : Reading} {name : String}
    (unknown : scope.knows provider name = false) : r.bound? provider scope name = none := by
  have absent := (r.isSome_bound? provider scope name).trans unknown
  exact Option.not_isSome_iff_eq_none.mp (by rw [absent]; exact Bool.false_ne_true)

def qualify (r : Reading) (q : Qualifier) : Reading := { r with qualifiers := r.qualifiers ++ [q] }

theorem bound?_qualify (r : Reading) (id : Int) (field name : String) {v : Value}
    (known : r.bound? provider scope name = some v)
    (selectable : (r.qualifiers.isEmpty && (scope.resolve name).value.isNone) = false) :
    ∃ w, (r.qualify (.field id field none)).bound? provider scope name = some w ∧
      w.SameKind (v.selectField (.string field)) := by
  unfold bound? at known ⊢
  cases found : (scope.resolve name).value with
  | some u =>
    rw [found] at known
    obtain rfl := Option.some.inj known
    refine ⟨_, rfl, ?_⟩
    rw [qualify, Plan.steps_append, Step.value_walk_append]
    exact Step.walk_field_sameKind provider scope id field _
  | none =>
    rw [found] at known selectable
    have selects : r.qualifiers.isEmpty = false := by simpa using selectable
    simp only [Variable.unbound?, variableOf, isEmpty_steps, selects] at known
    obtain ⟨type, listed, rfl⟩ := Option.map_eq_some_iff.mp known
    have more : (r.qualify (.field id field none)).qualifiers.isEmpty = false := by simp [qualify]
    simp only [Variable.unbound?, variableOf, isEmpty_steps, more, listed]
    exact ⟨_, rfl, Value.noSuchAttribute_sameKind ..⟩

end Reading

namespace Attribute

/-- Whether the attribute is the name of a type: the first of its names that are known at all is
not bound, and has no qualifiers. -/
def isType (provider : Provider) (scope : Scope) (a : Attribute) : Bool :=
  match a.attempts.find? fun (_, name) => scope.knows provider name with
  | some (r, name) => r.qualifiers.isEmpty && (scope.resolve name).value.isNone
  | none => false

/-- The names that the field makes of those that the attribute is as a whole. -/
def longerNames (field : String) : Attribute → List String
  | ambiguous id names qs =>
    ((ambiguous id names qs).readings.filter (·.qualifiers.isEmpty)).flatMap fun r =>
      r.names.map (· ++ "." ++ field)
  | _ => []

variable {provider : Provider} {scope : Scope}

theorem findSome?_qualify (id : Int) (field : String) {as : List (Reading × String)}
    (selectable : ∀ r name, as.find? (fun a => scope.knows provider a.2) = some (r, name) →
      (r.qualifiers.isEmpty && (scope.resolve name).value.isNone) = false) :
    let found := as.findSome? fun a => a.1.bound? provider scope a.2
    let selected := (as.map fun a => (a.1.qualify (.field id field none), a.2)).findSome? fun a =>
      a.1.bound? provider scope a.2
    found = none ∧ selected = none ∨
      ∃ v w, found = some v ∧ selected = some w ∧ w.SameKind (v.selectField (.string field)) := by
  induction as with
  | nil => exact .inl ⟨rfl, rfl⟩
  | cons a rest ih =>
    obtain ⟨r, name⟩ := a
    simp only [List.map_cons, List.findSome?_cons]
    rw [List.find?_cons] at selectable
    cases knows : scope.knows provider name with
    | true =>
      simp only [knows] at selectable
      obtain ⟨v, found⟩ :=
        Option.isSome_iff_exists.mp ((r.isSome_bound? provider scope name).trans knows)
      obtain ⟨w, selected, same⟩ :=
        r.bound?_qualify provider scope id field name found (selectable r name rfl)
      simp only [found, selected]
      exact .inr ⟨v, w, rfl, rfl, same⟩
    | false =>
      simp only [knows] at selectable
      simp only [Reading.bound?_eq_none knows]
      exact ih selectable

omit [HostObjects] in
theorem attempts_qualify (a : Attribute) (id : Int) (field : String)
    (access : Option (String × FieldAccess)) :
    (a.qualify (.field id field access)).attempts =
      (a.longerNames field).map (fun name => (⟨id, a.longerNames field, []⟩, name)) ++
        a.attempts.map fun p => (p.1.qualify (.field id field access), p.2) := by
  cases a with
  | absolute _ isLocal names qs =>
    rw [qualify_absolute, attempts, attempts, List.map_map]
    rfl
  | ambiguous other names qs =>
    have grown : ((ambiguous other names qs).qualify (.field id field access)).readings =
        (if ((ambiguous other names qs).longerNames field).isEmpty then []
          else [⟨id, (ambiguous other names qs).longerNames field, []⟩]) ++
        (ambiguous other names qs).readings.map fun r => r.qualify (.field id field access) :=
      readings_qualify ..
    rw [qualify_ambiguous, attempts, ← qualify_ambiguous, grown, List.flatMap_append, attempts,
      List.map_flatMap, List.flatMap_map]
    congr 1
    · generalize (ambiguous other names qs).longerNames field = longer
      cases longer <;> simp
    · simp [Reading.qualify, Function.comp_def]
  | relative | conditional => rfl

theorem findSome?_longer (id : Int) (names longer : List String) :
    ((longer.map fun name => ((⟨id, names, []⟩ : Reading), name)).findSome? fun a =>
      a.1.bound? provider scope a.2) = scope.named? provider longer := by
  rw [List.findSome?_map, Scope.named?]
  congr 1
  funext name
  simp only [Function.comp_apply, Reading.bound?]
  cases (scope.resolve name).value with
  | some v => rfl
  | none => simp [Variable.unbound?, Reading.variableOf, Plan.steps]

theorem value_attempt (plain : scope.patterns = []) (a : Attribute) (p : Reading × String) :
    (a.attempt provider scope p).value = p.1.bound? provider scope p.2 := by
  rw [attempt, Variable.value_resolveName?_plain _ plain]
  rfl

/-- A variable resolves to what its first attempt leads to, where no pattern is in force. -/
theorem value_resolve_attempts (plain : scope.patterns = []) (everything : Bool) {a : Attribute}
    (named : a.isNamed = true) :
    ∃ id written, (Plan.resolve provider a everything scope).value =
      (a.attempts.findSome? fun p => p.1.bound? provider scope p.2).getD
        (Variable.noSuchAttribute id written) := by
  obtain ⟨id, written, resolved⟩ := resolve_attempts provider everything scope named
  refine ⟨id, written, ?_⟩
  simp only [resolved, Run.value_bind, Run.value_pure, Variable.value_firstSome,
    value_attempt plain]

/-- What a field selected from an attribute leads to, where `branch` is the attribute that counts:
to a variable of a longer name, or else into the value of the attribute. -/
structure SelectsFrom (provider : Provider) (scope : Scope) (branch : Attribute) (field : String)
    (value selected : Value) : Prop where
  captured : ∀ v, scope.named? provider (branch.longerNames field) = some v → selected = v
  free : scope.named? provider (branch.longerNames field) = none →
    branch.isType provider scope = false → selected.SameKind (value.selectField (.string field))

omit [HostObjects] in
theorem isNamed_qualify {a : Attribute} (named : a.isNamed = true) (q : Qualifier) :
    (a.qualify q).isNamed = true := by
  cases a with
  | absolute | ambiguous => rfl
  | relative | conditional => cases named

theorem qualify_named_selectsFrom (plain : scope.patterns = []) (id : Int) (field : String)
    (everything : Bool) {a : Attribute} (named : a.isNamed = true) :
    SelectsFrom provider scope a field (Plan.resolve provider a everything scope).value
      (Plan.resolve provider (a.qualify (.field id field none)) everything scope).value := by
  obtain ⟨other, written, value⟩ := value_resolve_attempts plain everything named
  obtain ⟨another, longer, selected⟩ :=
    value_resolve_attempts plain everything (isNamed_qualify named (.field id field none))
  rw [attempts_qualify, List.findSome?_append, findSome?_longer] at selected
  refine ⟨fun v captured => ?_, fun free selectable => ?_⟩
  · rw [selected, captured]
    rfl
  · rw [selected, value, free, Option.none_or]
    have untyped : ∀ r name,
        a.attempts.find? (fun p => scope.knows provider p.2) = some (r, name) →
          (r.qualifiers.isEmpty && (scope.resolve name).value.isNone) = false := by
      intro r name found
      rw [isType, found] at selectable
      exact selectable
    rcases findSome?_qualify id field untyped with ⟨nowhere, none⟩ | ⟨v, w, found, some, same⟩
    · rw [nowhere, none]
      exact Value.noSuchAttribute_sameKind ..
    · rw [found, some]
      exact same

/-- A field that is selected from an attribute makes the name longer of the branch that counts, or
is selected from the value of that branch. -/
theorem qualify_selectsFrom (plain : scope.patterns = []) (id : Int) (field : String)
    (everything : Bool) (a : Attribute) :
    SelectsFrom provider scope (a.chosen provider scope) field
      (Plan.resolve provider a everything scope).value
      (Plan.resolve provider (a.qualify (.field id field none)) everything scope).value := by
  have unnamed : ∀ {value selected : Value} {b : Attribute}, b.longerNames field = [] →
      selected.SameKind (value.selectField (.string field)) →
      SelectsFrom provider scope b field value selected := by
    refine fun none same => ⟨fun _ captured => ?_, fun _ _ => same⟩
    rw [none] at captured
    cases captured
  induction a with
  | absolute other isLocal names qs =>
    exact qualify_named_selectsFrom plain id field everything rfl
  | ambiguous other names qs =>
    exact qualify_named_selectsFrom plain id field everything rfl
  | relative other operand qs =>
    refine unnamed rfl ?_
    rw [qualify_relative, Plan.value_relative, Plan.value_relative, Plan.steps_append,
      Step.value_walk_append]
    exact Step.walk_field_sameKind provider scope id field _
  | conditional other g t f whenTrue whenFalse =>
    rw [qualify_conditional, Plan.value_conditionalAttribute, Plan.value_conditionalAttribute,
      chosen]
    have unguided : ∀ guard : Value,
        SelectsFrom provider scope (conditional other g t f) field (Value.unguided other guard)
          (Value.unguided other guard) := by
      refine fun guard => unnamed rfl ?_
      rw [Value.selectField_of_isFailure (Value.isFailure_unguided ..)]
      exact .refl _
    cases (g.eval provider false scope).value with
    | bool b =>
      cases b with
      | true => exact whenTrue
      | false => exact whenFalse
    | _ => exact unguided _

end Attribute

end

/-! ### Plans of conditionals -/

/-- The expression is a loop, or a conditional with a branch that ends in one. -/
inductive Expr.EndsInLoop : Expr → Prop where
  | loop {id iterVar range accuVar init condition step result} :
      EndsInLoop (.loop id iterVar range accuVar init condition step result)
  | whenTrue {id g t f} (branch : EndsInLoop t) :
      EndsInLoop (.call id Operator.conditional [g, t, f])
  | whenFalse {id g t f} (branch : EndsInLoop f) :
      EndsInLoop (.call id Operator.conditional [g, t, f])

namespace Plan

/-- No loop that the plan may end in goes on for exhaustive evaluation. -/
def settled : Plan → Bool
  | exhaustive inner => !inner.isLoop && inner.settled
  | observed inner => inner.settled
  | conditional _ _ t f => t.settled && f.settled
  | _ => true

theorem value_toAttribute [HostObjects] (provider : Provider) {p : Plan}
    (settled : p.settled = true) (everything : Bool) (scope : Scope) :
    (resolve provider p.toAttribute everything scope).value =
      (eval provider p false scope).value := by
  match p with
  | exhaustive inner =>
    obtain ⟨single, settled⟩ := Bool.and_eq_true_iff.mp settled
    have lazy := @value_everything provider inner _ (by simpa using single) true false scope
    exact (value_toAttribute provider settled everything scope).trans lazy.symm
  | observed inner => exact value_toAttribute (p := inner) provider settled everything scope
  | attr _ a => exact resolve_everything provider a everything false scope
  | conditional id g t f =>
    obtain ⟨whenTrue, whenFalse⟩ := Bool.and_eq_true_iff.mp settled
    rw [toAttribute, value_conditionalAttribute, value_conditional,
      value_toAttribute provider whenTrue, value_toAttribute provider whenFalse]
  | const .. | both .. | either .. | call .. | list .. | mapping .. | object .. | presence .. |
    loop .. | membership .. | search .. => rfl

structure Settles (options : PlanOptions) (p : Plan) : Prop where
  settled : p.settled = true
  single : options.exhaustive = true → p.isLoop = false

variable {options : PlanOptions} {p : Plan}

theorem Settles.decorate (settles : p.Settles options) : (p.decorate options).Settles options := by
  have seen : ∀ q : Plan, q.Settles options →
      (if options.observes && !q.isObserved then observed q else q).Settles options := by
    intro q inner
    split
    · exact ⟨inner.settled, fun _ => rfl⟩
    · exact inner
  unfold Plan.decorate
  split
  · next forced =>
    obtain ⟨exhausts, -⟩ := Bool.and_eq_true_iff.mp forced
    refine seen _ ⟨?_, fun _ => rfl⟩
    rw [Plan.settled, settles.single exhausts, settles.settled]
    rfl
  · exact seen p settles

theorem settled_of_isSimple (simple : p.isSimple = true) : p.settled = true := by
  cases p with
  | conditional | exhaustive | observed => cases simple
  | _ => rfl

theorem Settles.prepare (settles : p.Settles options) : p.prepare.Settles options := by
  cases p with
  | call id function args overloads =>
    exact ⟨settled_of_isSimple (prepareCall_isSimple id function args overloads),
      fun _ => (prepareCall_form id function args overloads).1⟩
  | _ => exact settles

end Plan

namespace Planner

open Planning

open Plan hiding id

variable {c : Planner} {p : Plan}

section

variable [HostObjects]

theorem settles_finished (settles : p.Settles c.options)
    (branches : ∀ branch, p.knownBranch? = some branch → branch.Settles c.options) :
    (c.finished p).Settles c.options := by
  unfold finished
  split
  · rcases fold_cases c.provider p with ⟨branch, known, folded⟩ | ⟨-, -, folded⟩ |
      ⟨-, -, folded⟩ | ⟨-, folded⟩
    · rw [folded]
      exact (branches branch known).decorate
    · rw [folded]
      exact Settles.decorate ⟨rfl, fun _ => rfl⟩
    · rw [folded]
      exact settles.decorate
    · rw [folded]
      exact settles.prepare.decorate
  · exact settles.decorate

theorem settles_leaf (simple : p.isSimple = true) (single : p.isLoop = false) :
    (c.finished p).Settles c.options := by
  refine settles_finished ⟨settled_of_isSimple simple, fun _ => single⟩ fun branch known => ?_
  cases p with
  | conditional => cases simple
  | _ => cases known

end

theorem identPlan_isSimple (c : Planner) (locals : List String) (id : Int) (name : String) :
    (c.identPlan locals id name).isSimple = true := by
  unfold identPlan
  split
  · rfl
  · rfl
  · split <;> rfl

theorem isLoop_indexed (id : Int) (p q : Plan) : (p.indexed id q).isLoop = false := by
  unfold indexed
  split <;> rfl

section

variable [HostObjects]

/-- Only a loop is wrapped such that its value depends on the wrapper. -/
theorem settles_of_planned {e : Expr} {locals : List String} {p : Plan}
    (planned : Planned c e locals p)
    (lazy : c.options.exhaustive = true → ¬ e.EndsInLoop) : p.Settles c.options := by
  match planned with
  | .conditional _ whenTruePlanned whenFalsePlanned =>
    have whenTrue := settles_of_planned whenTruePlanned fun exhausts ends =>
      lazy exhausts (.whenTrue ends)
    have whenFalse := settles_of_planned whenFalsePlanned fun exhausts ends =>
      lazy exhausts (.whenFalse ends)
    refine settles_finished ⟨?_, fun _ => rfl⟩ fun branch known => ?_
    · rw [settled, whenTrue.settled, whenFalse.settled]
      rfl
    · rcases branch_of_known known with rfl | rfl
      · exact whenTrue
      · exact whenFalse
  | .loop .. =>
    refine settles_finished ⟨rfl, fun exhausts => absurd .loop (lazy exhausts)⟩ fun _ known => ?_
    cases known
  | .index _ _ => exact settles_leaf (indexed_form ..).1 (isLoop_indexed ..)
  | .ident | .resolved _ => exact settles_leaf (identPlan_isSimple ..) (identPlan_form ..).1
  | .literal | .select _ _ | .presence _ | .both _ _ | .either _ _ | .call _ _ | .member _ _ _ |
    .list _ | .mapping _ | .object _ _ => exact settles_leaf rfl rfl

/-- In an unchecked expression, a field that is selected from a conditional is selected from its
value, unless it makes the name longer that the branch is. -/
theorem select_conditional (c : Planner)
    (unchecked : c.checked.references = [] ∧ c.checked.types = []) (id other : Int) (g t f : Expr)
    (field : String) (locals : List String) {p : Plan}
    (planned : outcome (c.planExpr (.call other Operator.conditional [g, t, f]) locals) = .ok p)
    (lazy : c.options.exhaustive = true →
      ¬ (Expr.call other Operator.conditional [g, t, f]).EndsInLoop) {scope : Scope}
    (plain : scope.patterns = []) :
    ∃ q,
      outcome (c.planExpr (.select id (.call other Operator.conditional [g, t, f]) field) locals) =
        .ok q ∧
      Attribute.SelectsFrom c.provider scope (p.toAttribute.chosen c.provider scope) field
        (p.eval c.provider false scope).value (q.eval c.provider false scope).value := by
  obtain ⟨unreferenced, untyped⟩ := unchecked
  have unresolved : c.isResolved id = false := by
    simp [isResolved, CheckedExpr.reference?, unreferenced]
  have accessed : ∀ operand, c.fieldAccess operand field = none := fun operand => by
    simp [fieldAccess, CheckedExpr.type?, untyped]
  have settles := settles_of_planned (planned_of_outcome c _ _ planned) lazy
  refine ⟨c.finished (p.qualify id (.field id field none)), ?_, ?_⟩
  · rw [planExpr, unresolved, if_neg Bool.false_ne_true, outcome_bind, planned]
    simp only [Except.bind, outcome_finish, accessed]
  · rw [value_finished rfl rfl rfl, ← value_toAttribute c.provider settles.settled]
    exact Attribute.qualify_selectsFrom plain id field false p.toAttribute

end

attribute [local instance] HostObjects.silent

def aOrB : Expr := .call 4 "_?_:_" [.ident 1 "x", .ident 2 "a", .ident 3 "b"]

def fieldPlanner : Planner := ({} : Environment).planner (.unchecked (.select 5 aOrB "f"))

def fieldOne : Entries Value := Entries.single (.string "f") (.int 1)

def mapUnderA : Scope :=
  .table ((Table.empty.bind "x" (.value (.bool true))).bind "a" (.value (.map fieldOne)))

theorem select_conditional_fieldOfA :
    ∃ p q, outcome (fieldPlanner.planExpr aOrB []) = .ok p ∧
      outcome (fieldPlanner.planExpr (.select 5 aOrB "f") []) = .ok q ∧
      (p.eval fieldPlanner.provider false mapUnderA).value = .map fieldOne ∧
      (q.eval fieldPlanner.provider false mapUnderA).value.SameKind (.int 1) := by
  have plain : mapUnderA.patterns = [] := rfl
  obtain ⟨q, planned, selects⟩ := select_conditional fieldPlanner ⟨rfl, rfl⟩ 5 4 (.ident 1 "x")
    (.ident 2 "a") (.ident 3 "b") "f" [] rfl
    (fun exhausts => absurd exhausts Bool.false_ne_true) plain
  exact ⟨_, q, rfl, planned, rfl, selects.free rfl rfl⟩

def mapAndField : Scope := .layered mapUnderA (.table (Table.empty.bind "a.f" (.value (.int 5))))

/-- A variable that no chain of selections names hides the field of the value. -/
theorem longerName_hides_field :
    ∃ p q, outcome (fieldPlanner.planExpr aOrB []) = .ok p ∧
      outcome (fieldPlanner.planExpr (.select 5 aOrB "f") []) = .ok q ∧
      (p.toAttribute.chosen fieldPlanner.provider mapAndField).isType fieldPlanner.provider
        mapAndField = false ∧
      ((p.eval fieldPlanner.provider false mapAndField).value.selectField (.string "f")) = .int 1 ∧
      (q.eval fieldPlanner.provider false mapAndField).value = .int 5 :=
  ⟨_, _, rfl, rfl, rfl, rfl, rfl⟩

end Planner

end ExprEngine
