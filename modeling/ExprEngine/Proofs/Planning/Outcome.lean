import ExprEngine.Environment

/-!
# Outcomes of planning

What planning ends in, apart from the log of what was folded. Each form of an expression has one
rule in `Planned`, and `planned_of_outcome` says that a plan is made by these rules only.
-/

namespace ExprEngine

namespace Planning

variable {α β : Type}

def outcome (x : Planning α) : Except PlanError α := (ExceptT.run x).value

@[simp] theorem outcome_throw (e : PlanError) : outcome (throw e : Planning α) = .error e := rfl

@[simp] theorem outcome_bind (x : Planning α) (f : α → Planning β) :
    outcome (x >>= f) = (outcome x).bind fun a => outcome (f a) := by
  simp only [outcome, ExceptT.run_bind, Run.value_bind]
  cases (ExceptT.run x).value <;> rfl

theorem ok_of_bind {x : Except PlanError α} {f : α → Except PlanError β} {b : β}
    (h : x.bind f = .ok b) : ∃ a, x = .ok a ∧ f a = .ok b := by
  cases x with
  | error e => simp [Except.bind] at h
  | ok a => exact ⟨a, rfl, h⟩

theorem ok_of_map_toOption {α β : Type} {x : Except PlanError α} {f : α → β} {b : β}
    (found : x.toOption.map f = some b) : ∃ a, x = .ok a ∧ f a = b := by
  cases x with
  | error e => cases found
  | ok a => exact ⟨a, rfl, Option.some.inj found⟩

end Planning

variable [HostObjects]

namespace Planner

open Planning

variable (c : Planner)

/-- The plan that `finish` makes of a plan whose parts are final. -/
def finished (p : Plan) : Plan :=
  (if c.options.optimize then (p.fold c.provider).value else p).decorate c.options

@[simp] theorem outcome_finish (p : Plan) : outcome (c.finish p) = .ok (c.finished p) := by
  unfold finish finished
  split <;> rfl

/-- The overloads that a call with so many arguments may reach. -/
def reachable (function : String) (count : Nat) : List Overload :=
  (c.registry.find function).filter (·.takes count)

theorem outcome_callPlan (id : Int) (function : String) (onTarget : Bool) (args : List Plan) :
    outcome (c.callPlan id function onTarget args) =
      if !onTarget && (c.registry.find function).isEmpty then
        .error (.unknownFunction function id)
      else if !onTarget && (c.reachable function args.length).isEmpty then
        .error (.arityMismatch function args.length id)
      else .ok (c.finished (.call id function args (c.reachable function args.length))) := by
  simp only [callPlan, reachable, apply_ite outcome, outcome_throw, outcome_finish]
  rfl

mutual

/-- The rules by which an expression inside loops that bind `locals` gets a plan. -/
inductive Planned (c : Planner) : Expr → List String → Plan → Prop where
  | literal {id v locals} : Planned c (.literal id v) locals (c.finished (.const id v))
  | ident {id name locals} :
      Planned c (.ident id name) locals (c.finished (c.identPlan locals id name))
  | resolved {id operand field locals} (known : c.isResolved id = true) :
      Planned c (.select id operand field) locals (c.finished (c.identPlan locals id field))
  | select {id operand field locals p} (unknown : c.isResolved id = false)
      (operandPlanned : Planned c operand locals p) :
      Planned c (.select id operand field) locals
        (c.finished (p.qualify id (.field id field (c.fieldAccess operand.id field))))
  | presence {id operand field locals p} (operandPlanned : Planned c operand locals p) :
      Planned c (.presence id operand field) locals
        (c.finished (.presence id p field (c.fieldAccess operand.id field)))
  | both {id a b locals p q} (left : Planned c a locals p) (right : Planned c b locals q) :
      Planned c (.call id Operator.logicalAnd [a, b]) locals (c.finished (.both id p q))
  | either {id a b locals p q} (left : Planned c a locals p) (right : Planned c b locals q) :
      Planned c (.call id Operator.logicalOr [a, b]) locals (c.finished (.either id p q))
  | index {id a b locals p q} (operand : Planned c a locals p) (key : Planned c b locals q) :
      Planned c (.call id Operator.index [a, b]) locals (c.finished (p.indexed id q))
  | conditional {id g a b locals o p q} (guard : Planned c g locals o)
      (whenTrue : Planned c a locals p) (whenFalse : Planned c b locals q) :
      Planned c (.call id Operator.conditional [g, a, b]) locals
        (c.finished (.conditional id o p q))
  | call {id function args locals ps} (plain : operandCount? function = none)
      (planned : PlannedAll c args locals ps) :
      Planned c (.call id function args) locals
        (c.finished (.call id function ps (c.reachable function ps.length)))
  | member {id target function args locals p ps} (plain : operandCount? function = none)
      (targetPlanned : Planned c target locals p) (planned : PlannedAll c args locals ps) :
      Planned c (.member id target function args) locals
        (c.finished (.call id function (p :: ps) (c.reachable function (p :: ps).length)))
  | list {id elements locals ps} (planned : PlannedAll c elements locals ps) :
      Planned c (.list id elements) locals (c.finished (.list id ps))
  | mapping {id entries locals ps} (planned : PlannedKeyed c entries locals ps) :
      Planned c (.mapping id entries) locals (c.finished (.mapping id ps))
  | object {id name full entries locals ps} (named : outcome (c.typeName id name) = .ok full)
      (planned : PlannedFields c entries locals ps) :
      Planned c (.object id name entries) locals (c.finished (.object id full ps))
  | loop {id iterVar range accuVar init condition step result locals o i w s r}
      (rangePlanned : Planned c range locals o) (initPlanned : Planned c init locals i)
      (conditionPlanned : Planned c condition (iterVar :: accuVar :: locals) w)
      (stepPlanned : Planned c step (iterVar :: accuVar :: locals) s)
      (resultPlanned : Planned c result (accuVar :: locals) r) :
      Planned c (.loop id iterVar range accuVar init condition step result) locals
        (c.finished (.loop id iterVar o accuVar i w s r))

inductive PlannedAll (c : Planner) : List Expr → List String → List Plan → Prop where
  | nil {locals} : PlannedAll c [] locals []
  | cons {e rest locals p ps} (first : Planned c e locals p)
      (others : PlannedAll c rest locals ps) : PlannedAll c (e :: rest) locals (p :: ps)

inductive PlannedKeyed (c : Planner) : List Entry → List String → List (Plan × Plan) → Prop where
  | nil {locals} : PlannedKeyed c [] locals []
  | cons {id key value rest locals p q ps} (keyPlanned : Planned c key locals p)
      (valuePlanned : Planned c value locals q) (others : PlannedKeyed c rest locals ps) :
      PlannedKeyed c (.keyed id key value :: rest) locals ((p, q) :: ps)

inductive PlannedFields (c : Planner) :
    List Entry → List String → List (String × Plan) → Prop where
  | nil {locals} : PlannedFields c [] locals []
  | cons {id name value rest locals p ps} (valuePlanned : Planned c value locals p)
      (others : PlannedFields c rest locals ps) :
      PlannedFields c (.field id name value :: rest) locals ((name, p) :: ps)

end

theorem length_of_plannedAll {c : Planner} {es : List Expr} {locals : List String} {ps : List Plan}
    (planned : PlannedAll c es locals ps) : ps.length = es.length := by
  induction es generalizing ps with
  | nil =>
    cases planned
    rfl
  | cons e rest ih =>
    cases planned with
    | cons _ others => rw [List.length_cons, List.length_cons, ih others]

omit [HostObjects] in
theorem operatorPlan?_cases {id : Int} {function : String} {ps : List Plan} {p : Plan}
    (h : operatorPlan? id function ps = some p) :
    (∃ a b, ps = [a, b] ∧ function = Operator.logicalAnd ∧ p = .both id a b) ∨
    (∃ a b, ps = [a, b] ∧ function = Operator.logicalOr ∧ p = .either id a b) ∨
    (∃ a b, ps = [a, b] ∧ function = Operator.index ∧ p = a.indexed id b) ∨
    ∃ g t f, ps = [g, t, f] ∧ function = Operator.conditional ∧ p = .conditional id g t f := by
  unfold operatorPlan? at h
  split at h
  · next a b =>
    split at h
    · next isAnd => exact .inl ⟨a, b, rfl, isAnd, (Option.some.inj h).symm⟩
    · split at h
      · next isOr => exact .inr (.inl ⟨a, b, rfl, isOr, (Option.some.inj h).symm⟩)
      · split at h
        · next isIndex =>
          exact .inr (.inr (.inl ⟨a, b, rfl, isIndex, (Option.some.inj h).symm⟩))
        · cases h
  · next g t f =>
    split at h
    · next isConditional =>
      exact .inr (.inr (.inr ⟨g, t, f, rfl, isConditional, (Option.some.inj h).symm⟩))
    · cases h
  · cases h

theorem planned_of_operator {id : Int} {function : String} {args : List Expr}
    {locals : List String} {ps : List Plan} {p : Plan}
    (operator : operatorPlan? id function ps = some p) (planned : PlannedAll c args locals ps) :
    Planned c (.call id function args) locals (c.finished p) := by
  rcases operatorPlan?_cases operator with ⟨a, b, rfl, rfl, rfl⟩ | ⟨a, b, rfl, rfl, rfl⟩ |
    ⟨a, b, rfl, rfl, rfl⟩ | ⟨g, t, f, rfl, rfl, rfl⟩
  · obtain _ | ⟨left, _ | ⟨right, _ | _⟩⟩ := planned
    exact .both left right
  · obtain _ | ⟨left, _ | ⟨right, _ | _⟩⟩ := planned
    exact .either left right
  · obtain _ | ⟨operand, _ | ⟨key, _ | _⟩⟩ := planned
    exact .index operand key
  · obtain _ | ⟨guard, _ | ⟨whenTrue, _ | ⟨whenFalse, _ | _⟩⟩⟩ := planned
    exact .conditional guard whenTrue whenFalse

mutual

theorem planned_of_outcome (e : Expr) (locals : List String) {p : Plan}
    (h : outcome (c.planExpr e locals) = .ok p) : Planned c e locals p := by
  match e with
  | .literal id v =>
    rw [planExpr, outcome_finish] at h
    obtain rfl := Except.ok.inj h
    exact .literal
  | .ident id name =>
    rw [planExpr, outcome_finish] at h
    obtain rfl := Except.ok.inj h
    exact .ident
  | .select id operand field =>
    rw [planExpr] at h
    split at h
    · next known =>
      rw [outcome_finish] at h
      obtain rfl := Except.ok.inj h
      exact .resolved known
    · next unknown =>
      rw [outcome_bind] at h
      obtain ⟨q, operandPlanned, h⟩ := ok_of_bind h
      obtain rfl := Except.ok.inj ((outcome_finish ..).symm.trans h)
      exact .select (by simpa using unknown) (planned_of_outcome operand locals operandPlanned)
  | .presence id operand field =>
    rw [planExpr, outcome_bind] at h
    obtain ⟨q, operandPlanned, h⟩ := ok_of_bind h
    obtain rfl := Except.ok.inj ((outcome_finish ..).symm.trans h)
    exact .presence (planned_of_outcome operand locals operandPlanned)
  | .call id function args =>
    rw [planExpr] at h
    split at h
    · split at h
      · cases h
      · rw [outcome_bind] at h
        obtain ⟨ps, planned, h⟩ := ok_of_bind h
        split at h
        · next operator =>
          obtain rfl := Except.ok.inj ((outcome_finish ..).symm.trans h)
          exact planned_of_operator c operator (plannedAll_of_outcome args locals planned)
        · cases h
    · next plain =>
      rw [outcome_bind] at h
      obtain ⟨ps, planned, h⟩ := ok_of_bind h
      rw [outcome_callPlan] at h
      split at h
      · cases h
      · split at h
        · cases h
        · obtain rfl := Except.ok.inj h
          exact .call plain (plannedAll_of_outcome args locals planned)
  | .member id target function args =>
    rw [planExpr] at h
    split at h
    · cases h
    · next plain =>
      rw [outcome_bind] at h
      obtain ⟨q, targetPlanned, h⟩ := ok_of_bind h
      rw [outcome_bind] at h
      obtain ⟨ps, planned, h⟩ := ok_of_bind h
      rw [outcome_callPlan] at h
      obtain rfl := Except.ok.inj h
      exact .member plain (planned_of_outcome target locals targetPlanned)
        (plannedAll_of_outcome args locals planned)
  | .list id elements =>
    rw [planExpr, outcome_bind] at h
    obtain ⟨ps, planned, h⟩ := ok_of_bind h
    obtain rfl := Except.ok.inj ((outcome_finish ..).symm.trans h)
    exact .list (plannedAll_of_outcome elements locals planned)
  | .mapping id entries =>
    rw [planExpr, outcome_bind] at h
    obtain ⟨ps, planned, h⟩ := ok_of_bind h
    obtain rfl := Except.ok.inj ((outcome_finish ..).symm.trans h)
    exact .mapping (plannedKeyed_of_outcome entries locals planned)
  | .object id name entries =>
    rw [planExpr, outcome_bind] at h
    obtain ⟨full, named, h⟩ := ok_of_bind h
    rw [outcome_bind] at h
    obtain ⟨ps, planned, h⟩ := ok_of_bind h
    obtain rfl := Except.ok.inj ((outcome_finish ..).symm.trans h)
    exact .object named (plannedFields_of_outcome full entries locals planned)
  | .loop id iterVar range accuVar init condition step result =>
    rw [planExpr, outcome_bind] at h
    obtain ⟨o, rangePlanned, h⟩ := ok_of_bind h
    rw [outcome_bind] at h
    obtain ⟨i, initPlanned, h⟩ := ok_of_bind h
    rw [outcome_bind] at h
    obtain ⟨w, conditionPlanned, h⟩ := ok_of_bind h
    rw [outcome_bind] at h
    obtain ⟨s, stepPlanned, h⟩ := ok_of_bind h
    rw [outcome_bind] at h
    obtain ⟨r, resultPlanned, h⟩ := ok_of_bind h
    obtain rfl := Except.ok.inj ((outcome_finish ..).symm.trans h)
    exact .loop (planned_of_outcome range locals rangePlanned)
      (planned_of_outcome init locals initPlanned)
      (planned_of_outcome condition _ conditionPlanned) (planned_of_outcome step _ stepPlanned)
      (planned_of_outcome result _ resultPlanned)

theorem plannedAll_of_outcome (es : List Expr) (locals : List String) {ps : List Plan}
    (h : outcome (c.planAll es locals) = .ok ps) : PlannedAll c es locals ps := by
  match es with
  | [] =>
    obtain rfl := Except.ok.inj h
    exact .nil
  | e :: rest =>
    rw [planAll, outcome_bind] at h
    obtain ⟨p, first, h⟩ := ok_of_bind h
    rw [outcome_bind] at h
    obtain ⟨qs, others, h⟩ := ok_of_bind h
    obtain rfl := Except.ok.inj h
    exact .cons (planned_of_outcome e locals first) (plannedAll_of_outcome rest locals others)

theorem plannedKeyed_of_outcome (entries : List Entry) (locals : List String)
    {ps : List (Plan × Plan)} (h : outcome (c.planKeyed entries locals) = .ok ps) :
    PlannedKeyed c entries locals ps := by
  match entries with
  | [] =>
    obtain rfl := Except.ok.inj h
    exact .nil
  | .field id name value :: rest => cases h
  | .keyed id key value :: rest =>
    rw [planKeyed, outcome_bind] at h
    obtain ⟨p, keyPlanned, h⟩ := ok_of_bind h
    rw [outcome_bind] at h
    obtain ⟨q, valuePlanned, h⟩ := ok_of_bind h
    rw [outcome_bind] at h
    obtain ⟨qs, others, h⟩ := ok_of_bind h
    obtain rfl := Except.ok.inj h
    exact .cons (planned_of_outcome key locals keyPlanned)
      (planned_of_outcome value locals valuePlanned)
      (plannedKeyed_of_outcome rest locals others)

theorem plannedFields_of_outcome (typeName : String) (entries : List Entry)
    (locals : List String) {ps : List (String × Plan)}
    (h : outcome (c.planFields typeName entries locals) = .ok ps) :
    PlannedFields c entries locals ps := by
  match entries with
  | [] =>
    obtain rfl := Except.ok.inj h
    exact .nil
  | .keyed id key value :: rest => cases h
  | .field id name value :: rest =>
    rw [planFields, outcome_bind] at h
    obtain ⟨p, valuePlanned, h⟩ := ok_of_bind h
    rw [outcome_bind] at h
    obtain ⟨qs, others, h⟩ := ok_of_bind h
    obtain rfl := Except.ok.inj h
    exact .cons (planned_of_outcome value locals valuePlanned)
      (plannedFields_of_outcome typeName rest locals others)

end

end Planner

namespace Environment

open Planning

theorem plan_ok {env : Environment} {checked : CheckedExpr} {program : Program}
    (planned : outcome (env.plan checked) = .ok program) :
    outcome ((env.planner checked).planExpr checked.expr []) = .ok program.root ∧
      program.provider = (env.planner checked).provider := by
  rw [plan, outcome_bind] at planned
  obtain ⟨root, made, planned⟩ := ok_of_bind planned
  obtain rfl := Except.ok.inj planned
  exact ⟨made, rfl⟩

end Environment

end ExprEngine
