import ExprEngine.Proofs.Evaluation.Demand
import ExprEngine.Proofs.Expr.Everywhere
import ExprEngine.Proofs.Partial.Macros

/-!
# Plans made on demand

What a planner has to supply for a demand to be met in its plans: `made_of_planned` finds what is
asked of an expression in its plan. Attributes with branches come from selections on conditionals
only.
-/

namespace ExprEngine

def Expr.isConditional : Expr → Bool
  | .call _ function _ => function == Operator.conditional
  | _ => false

namespace Attribute

def forks : Attribute → Bool
  | conditional .. => true
  | absolute .. | ambiguous .. | relative .. => false

theorem forks_qualify (a : Attribute) (q : Qualifier) : (a.qualify q).forks = a.forks := by
  cases a <;> rfl

end Attribute

namespace Plan

def forks : Plan → Bool
  | attr _ a => a.forks
  | _ => false

variable {k : Demand} {bound : List String} {p q : Plan}

theorem madeQualifiers_append {qs more : List Qualifier} (first : MadeQualifiers k qs bound)
    (rest : MadeQualifiers k more bound) : MadeQualifiers k (qs ++ more) bound := by
  induction qs with
  | nil => exact rest
  | cons q others ih =>
    cases q with
    | field | constant => exact ih first
    | computed => exact ⟨first.1, ih first.2⟩

theorem madeAttribute_qualify {a : Attribute} (made : MadeAttribute k a bound) {q : Qualifier}
    (step : MadeQualifiers k [q] bound) : MadeAttribute k (a.qualify q) bound := by
  induction a with
  | absolute | ambiguous | relative => exact ⟨made.1, madeQualifiers_append made.2 step⟩
  | conditional id g t f whenTrue whenFalse =>
    exact ⟨made.1, whenTrue made.2.1, whenFalse made.2.2⟩

theorem madeAttribute_toAttribute {p : Plan} (made : p.Made k bound) :
    MadeAttribute k p.toAttribute bound := by
  match p with
  | observed inner => exact madeAttribute_toAttribute (p := inner) made
  | exhaustive inner => exact madeAttribute_toAttribute (p := inner) made.2
  | attr _ a => exact made
  | conditional id g t f =>
    exact ⟨made.1, madeAttribute_toAttribute made.2.1, madeAttribute_toAttribute made.2.2⟩
  | const .. | both .. | either .. | call .. | list .. | mapping .. | object .. | presence .. |
    loop .. | membership .. | search .. => exact ⟨made, trivial⟩

theorem qualify_field_made (id : Int) (field : String) (access : Option (String × FieldAccess))
    (operand : p.Made k bound) : (p.qualify id (.field id field access)).Made k bound :=
  madeAttribute_qualify (madeAttribute_toAttribute operand) trivial

theorem indexed_made (id : Int) (operand : p.Made k bound) (key : q.Made k bound) :
    (p.indexed id q).Made k bound := by
  have referent := madeAttribute_toAttribute operand
  unfold indexed
  split
  · exact madeAttribute_qualify referent trivial
  · exact madeAttribute_qualify referent ⟨key, trivial⟩

theorem prepareCall_made (id : Int) (function : String) {args : List Plan}
    {overloads : List Overload} (calls : k.calls overloads) (parts : MadeAll k args bound) :
    (prepareCall id function args overloads).Made k bound := by
  unfold prepareCall
  split
  · exact ⟨calls, parts⟩
  · split
    · split
      · split
        · split
          · exact ⟨calls, parts.1⟩
          · exact ⟨calls, parts⟩
        · exact ⟨calls, parts⟩
      · split
        · split
          · exact ⟨calls, parts.1⟩
          · exact ⟨calls, parts⟩
        · exact ⟨calls, parts⟩
      · exact ⟨calls, parts⟩
    · exact ⟨calls, parts⟩

theorem prepare_made (made : p.Made k bound) : p.prepare.Made k bound := by
  cases p with
  | call id function args overloads => exact prepareCall_made id function made.1 made.2
  | _ => exact made

theorem fold_made [HostObjects] (provider : Provider) (made : p.Made k bound) :
    (p.fold provider).value.Made k bound := by
  rcases fold_cases provider p with ⟨branch, known, folded⟩ | ⟨-, -, folded⟩ | ⟨-, -, folded⟩ |
    ⟨-, folded⟩
  · rw [folded]
    cases p with
    | conditional id g t f =>
      rcases branch_of_known known with rfl | rfl
      · exact made.2.1
      · exact made.2.2
    | _ => cases known
  · rw [folded]
    exact trivial
  · rw [folded]
    exact made
  · rw [folded]
    exact prepare_made made

theorem decorate_made {options : PlanOptions} (made : p.Made k bound)
    (wraps : options.exhaustive = true → k.wraps p) : (p.decorate options).Made k bound := by
  have wrapped :
      (if options.exhaustive && p.mayStopEarly then exhaustive p else p).Made k bound := by
    split
    · next exhausts =>
      obtain ⟨exhausts, -⟩ := Bool.and_eq_true_iff.mp exhausts
      exact ⟨wraps exhausts, made⟩
    · exact made
  simp only [decorate]
  generalize (if options.exhaustive && p.mayStopEarly then exhaustive p else p) = q at wrapped ⊢
  split
  · exact wrapped
  · exact wrapped

theorem forks_prepare (p : Plan) : p.prepare.forks = p.forks := by
  cases p with
  | call id function args overloads =>
    have form := (prepareCall_form id function args overloads).2.2.2
    change (prepareCall id function args overloads).forks = false
    generalize prepareCall id function args overloads = prepared at form
    cases prepared with
    | attr _ a => cases a <;> first | rfl | cases form
    | _ => rfl
  | _ => rfl

theorem indexed_forks (id : Int) (operand key : Plan) :
    (operand.indexed id key).forks = operand.toAttribute.forks := by
  unfold indexed
  exact Attribute.forks_qualify ..

end Plan

namespace Planner

open Plan hiding id

/-- Fields and elements are selected from the values of other expressions than conditionals. -/
def SelectsValues (c : Planner) : Expr → List String → Prop
  | .select id operand _, _ => c.isResolved id = true ∨ operand.isConditional = false
  | .call _ function (operand :: _), _ =>
    function = Operator.index → operand.isConditional = false
  | _, _ => True

/-- What a planner supplies for a demand, where the nodes of an expression inside loops that bind
`outer` are as `asked` says. -/
structure Supplies (c : Planner) (k : Demand) (outer : List String)
    (asked : Expr → List String → Prop) : Prop where
  calls : ∀ function count, k.calls (c.reachable function count)
  ident : ∀ {id name bound}, asked (.ident id name) bound →
    (c.identPlan (bound ++ outer) id name).Made k bound
  resolved : ∀ {id operand field bound}, c.isResolved id = true →
    asked (.select id operand field) bound → (c.identPlan (bound ++ outer) id field).Made k bound
  wraps : c.options.exhaustive = true → ∀ p : Plan, p.forks = false → k.wraps p
  values : c.options.exhaustive = true →
    (∀ p, k.wraps p) ∨ ∀ e bound, asked e bound → c.SelectsValues e bound

variable {c : Planner} {k : Demand} {outer bound : List String}
  {asked : Expr → List String → Prop} {p : Plan}

theorem identPlan_forks (c : Planner) (locals : List String) (id : Int) (name : String) :
    (c.identPlan locals id name).forks = false ∧
      (c.identPlan locals id name).toAttribute.forks = false := by
  unfold identPlan
  split
  · exact ⟨rfl, rfl⟩
  · exact ⟨rfl, rfl⟩
  · split <;> exact ⟨rfl, rfl⟩

variable [HostObjects]

/-- Finishing a plan makes no attribute with branches, unless it was one, and may wrap it. The
branches of a conditional are final plans, so they have their wrappers. -/
theorem finished_made (supplies : Supplies c k outer asked) (made : p.Made k bound)
    (single : c.options.exhaustive = true → (∀ p, k.wraps p) ∨ p.forks = false)
    (branches : c.options.exhaustive = true →
      ∀ branch, p.knownBranch? = some branch → branch.isObserved = true) :
    (c.finished p).Made k bound := by
  unfold finished
  split
  · refine decorate_made (fold_made c.provider made) fun exhausts => ?_
    rcases single exhausts with always | single
    · exact always _
    refine supplies.wraps exhausts _ ?_
    rcases fold_cases c.provider p with ⟨branch, known, folded⟩ | ⟨-, -, folded⟩ |
      ⟨-, -, folded⟩ | ⟨-, folded⟩
    · have seen := branches exhausts branch known
      rw [folded]
      cases branch with
      | observed => rfl
      | _ => cases seen
    · rw [folded]
      rfl
    · rw [folded]
      exact single
    · rw [folded, forks_prepare]
      exact single
  · exact decorate_made made fun exhausts =>
      (single exhausts).elim (fun always => always p) (supplies.wraps exhausts p)

theorem finished_leaf_made (supplies : Supplies c k outer asked) (leaf : p.knownBranch? = none)
    (made : p.Made k bound)
    (single : c.options.exhaustive = true → (∀ p, k.wraps p) ∨ p.forks = false) :
    (c.finished p).Made k bound := by
  refine finished_made supplies made single fun _ branch known => ?_
  rw [leaf] at known
  cases known

theorem toAttribute_finished_forks (leaf : p.knownBranch? = none)
    (single : p.toAttribute.forks = false) : (c.finished p).toAttribute.forks = false := by
  unfold finished
  rw [toAttribute_decorate]
  split
  · rcases fold_cases c.provider p with ⟨branch, known, -⟩ | ⟨-, -, folded⟩ | ⟨-, -, folded⟩ |
      ⟨-, folded⟩
    · rw [leaf] at known
      cases known
    · rw [folded]
      rfl
    · rw [folded]
      exact single
    · rw [folded]
      cases p with
      | call id function args overloads =>
        have form := (prepareCall_form id function args overloads).2.2.1
        change (prepareCall id function args overloads).toAttribute.forks = false
        rw [form]
        rfl
      | _ => exact single
  · exact single

theorem unforked_of_planned (values : ∀ e bound, asked e bound → c.SelectsValues e bound)
    {e : Expr} {bound : List String} {p : Plan} (planned : Planned c e (bound ++ outer) p)
    (everywhere : e.Everywhere asked bound) (single : e.isConditional = false) :
    p.toAttribute.forks = false := by
  have selects := values e bound everywhere.here
  match planned with
  | .conditional .. => cases single
  | .ident | .resolved _ =>
    exact toAttribute_finished_forks (identPlan_form ..).2.1 (identPlan_forks ..).2
  | .select unknown operandPlanned =>
    have plain := selects.resolve_left (by rw [unknown]; exact Bool.false_ne_true)
    have operand := unforked_of_planned values operandPlanned everywhere.2 plain
    exact toAttribute_finished_forks rfl ((Attribute.forks_qualify ..).trans operand)
  | .index operandPlanned _ =>
    have operand := unforked_of_planned values operandPlanned everywhere.2.1 (selects rfl)
    exact toAttribute_finished_forks rfl ((indexed_forks ..).trans operand)
  | .literal | .presence _ | .both _ _ | .either _ _ | .call _ _ | .member _ _ _ | .list _ |
    .mapping _ | .object _ _ | .loop _ _ _ _ _ => exact toAttribute_finished_forks rfl rfl

mutual

/-- What is asked of an expression is found in its plan. -/
theorem made_of_planned (supplies : Supplies c k outer asked) {e : Expr} {bound : List String}
    {p : Plan} (planned : Planned c e (bound ++ outer) p) (everywhere : e.Everywhere asked bound) :
    p.Made k bound := by
  match planned with
  | .literal => exact finished_leaf_made supplies rfl trivial fun _ => .inr rfl
  | .ident =>
    exact finished_leaf_made supplies (identPlan_form ..).2.1 (supplies.ident everywhere)
      fun _ => .inr (identPlan_forks ..).1
  | .resolved known =>
    exact finished_leaf_made supplies (identPlan_form ..).2.1
      (supplies.resolved known everywhere.here) fun _ => .inr (identPlan_forks ..).1
  | .select unknown operandPlanned =>
    have operand := made_of_planned supplies operandPlanned everywhere.2
    refine finished_leaf_made supplies rfl (qualify_field_made _ _ _ operand) fun exhausts =>
      (supplies.values exhausts).imp_right fun values => ?_
    have plain := (values _ bound everywhere.here).resolve_left
      (by rw [unknown]; exact Bool.false_ne_true)
    exact (Attribute.forks_qualify ..).trans
      (unforked_of_planned values operandPlanned everywhere.2 plain)
  | .presence operandPlanned =>
    have operand : Made k _ bound := made_of_planned supplies operandPlanned everywhere.2
    exact finished_leaf_made supplies rfl operand fun _ => .inr rfl
  | .both leftPlanned rightPlanned | .either leftPlanned rightPlanned =>
    have left := made_of_planned supplies leftPlanned everywhere.2.1
    have right := made_of_planned supplies rightPlanned everywhere.2.2.1
    exact finished_leaf_made supplies rfl ⟨left, right⟩ fun _ => .inr rfl
  | .index operandPlanned keyPlanned =>
    have operand := made_of_planned supplies operandPlanned everywhere.2.1
    have key := made_of_planned supplies keyPlanned everywhere.2.2.1
    refine finished_leaf_made supplies rfl (indexed_made _ operand key) fun exhausts =>
      (supplies.values exhausts).imp_right fun values => ?_
    exact (indexed_forks ..).trans (unforked_of_planned values operandPlanned everywhere.2.1
      (values _ bound everywhere.here rfl))
  | .conditional guardPlanned whenTruePlanned whenFalsePlanned =>
    have guard := made_of_planned supplies guardPlanned everywhere.2.1
    have whenTrue := made_of_planned supplies whenTruePlanned everywhere.2.2.1
    have whenFalse := made_of_planned supplies whenFalsePlanned everywhere.2.2.2.1
    refine finished_made supplies ⟨guard, whenTrue, whenFalse⟩ (fun _ => .inr rfl)
      fun exhausts branch known => ?_
    have observes : c.options.observes = true := by simp [PlanOptions.observes, exhausts]
    rcases branch_of_known known with rfl | rfl
    · exact isObserved_of_planned whenTruePlanned observes
    · exact isObserved_of_planned whenFalsePlanned observes
  | .call _ argsPlanned =>
    have args := madeAll_of_planned supplies argsPlanned everywhere.2
    exact finished_leaf_made supplies rfl ⟨supplies.calls _ _, args⟩ fun _ => .inr rfl
  | .member _ targetPlanned argsPlanned =>
    have target := made_of_planned supplies targetPlanned everywhere.2.1
    have args := madeAll_of_planned supplies argsPlanned everywhere.2.2
    exact finished_leaf_made supplies rfl ⟨supplies.calls _ _, target, args⟩ fun _ => .inr rfl
  | .list elementsPlanned =>
    have elements : MadeAll k _ bound := madeAll_of_planned supplies elementsPlanned everywhere.2
    exact finished_leaf_made supplies rfl elements fun _ => .inr rfl
  | .mapping entriesPlanned =>
    have entries : MadeKeyed k _ bound := madeKeyed_of_planned supplies entriesPlanned everywhere.2
    exact finished_leaf_made supplies rfl entries fun _ => .inr rfl
  | .object _ fieldsPlanned =>
    have fields : MadeFields k _ bound := madeFields_of_planned supplies fieldsPlanned everywhere.2
    exact finished_leaf_made supplies rfl fields fun _ => .inr rfl
  | @Planned.loop _ _ _ iterVar _ accuVar _ _ _ _ _ _ _ w s r rangePlanned initPlanned
      conditionPlanned stepPlanned resultPlanned =>
    obtain ⟨-, rangeAsked, initAsked, conditionAsked, stepAsked, resultAsked⟩ := everywhere
    have range := made_of_planned supplies rangePlanned rangeAsked
    have init := made_of_planned supplies initPlanned initAsked
    have condition : w.Made k (iterVar :: accuVar :: bound) :=
      made_of_planned supplies conditionPlanned conditionAsked
    have step : s.Made k (iterVar :: accuVar :: bound) :=
      made_of_planned supplies stepPlanned stepAsked
    have result : r.Made k (accuVar :: bound) :=
      made_of_planned supplies resultPlanned resultAsked
    exact finished_leaf_made supplies rfl ⟨range, init, condition, step, result⟩ fun _ => .inr rfl

theorem madeAll_of_planned (supplies : Supplies c k outer asked) {es : List Expr}
    {bound : List String} {ps : List Plan} (planned : PlannedAll c es (bound ++ outer) ps)
    (everywhere : Expr.EverywhereAll asked es bound) : MadeAll k ps bound := by
  match planned with
  | .nil => exact trivial
  | .cons first others =>
    exact ⟨made_of_planned supplies first everywhere.1,
      madeAll_of_planned supplies others everywhere.2⟩

theorem madeKeyed_of_planned (supplies : Supplies c k outer asked) {entries : List Entry}
    {bound : List String} {ps : List (Plan × Plan)}
    (planned : PlannedKeyed c entries (bound ++ outer) ps)
    (everywhere : Expr.EverywhereIn asked entries bound) : MadeKeyed k ps bound := by
  match planned with
  | .nil => exact trivial
  | .cons key value others =>
    exact ⟨made_of_planned supplies key everywhere.1,
      made_of_planned supplies value everywhere.2.1,
      madeKeyed_of_planned supplies others everywhere.2.2⟩

theorem madeFields_of_planned (supplies : Supplies c k outer asked) {entries : List Entry}
    {bound : List String} {ps : List (String × Plan)}
    (planned : PlannedFields c entries (bound ++ outer) ps)
    (everywhere : Expr.EverywhereIn asked entries bound) : MadeFields k ps bound := by
  match planned with
  | .nil => exact trivial
  | .cons value others =>
    exact ⟨made_of_planned supplies value everywhere.1,
      madeFields_of_planned supplies others everywhere.2⟩

end

end Planner

end ExprEngine
