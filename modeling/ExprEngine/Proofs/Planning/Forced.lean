import ExprEngine.Proofs.Evaluation.Forced
import ExprEngine.Proofs.Expr.Everywhere
import ExprEngine.Proofs.Planning.Folding

/-!
# Plans of exhaustive planning

Exhaustive planning wraps what may stop early, and a selection takes the wrappers of its operand
off again. The attribute that it becomes is wrapped where it has branches, so that conditionals are
forced also below selections; conjunctions, disjunctions and loops are not.
-/

namespace ExprEngine

/-- What stops early under a selection: operators and loops, also as branches of a conditional. -/
inductive Expr.StopsSelected : Expr → Prop where
  | operator {id function args}
      (logical : function = Operator.logicalAnd ∨ function = Operator.logicalOr) :
      StopsSelected (.call id function args)
  | loop {id iterVar range accuVar init condition step result} :
      StopsSelected (.loop id iterVar range accuVar init condition step result)
  | whenTrue {id function g t f} (chooses : function = Operator.conditional)
      (branch : StopsSelected t) : StopsSelected (.call id function [g, t, f])
  | whenFalse {id function g t f} (chooses : function = Operator.conditional)
      (branch : StopsSelected f) : StopsSelected (.call id function [g, t, f])

namespace Plan

variable {p : Plan}

theorem forced_of_mayStopEarly (forced : p.Forced true) (regular : p.mayStopEarly = false)
    (wrapped : Bool) : p.Forced wrapped := by
  cases p with
  | both | either | conditional | loop => cases regular
  | attr id a => exact ⟨fun stops => absurd (regular.symm.trans stops) Bool.false_ne_true, forced.2⟩
  | _ => exact forced

theorem forced_decorate {options : PlanOptions} (exhausts : options.exhaustive = true)
    (forced : p.Forced true) : (p.decorate options).Forced false := by
  have wrapped : (if p.mayStopEarly then exhaustive p else p).Forced false := by
    cases stops : p.mayStopEarly with
    | true => exact forced
    | false => exact forced_of_mayStopEarly forced stops false
  simp only [decorate, exhausts, Bool.true_and]
  generalize (if p.mayStopEarly then exhaustive p else p) = q at wrapped ⊢
  split
  · exact wrapped
  · exact wrapped

theorem forcedQualifiers_append {qs : List Qualifier} (forced : ForcedQualifiers qs)
    {more : List Qualifier} (others : ForcedQualifiers more) : ForcedQualifiers (qs ++ more) := by
  induction qs with
  | nil => exact others
  | cons q rest ih =>
    cases q with
    | field | constant => exact ih forced
    | computed => exact ⟨forced.1, ih forced.2⟩

theorem forcedAttribute_qualify {a : Attribute} (forced : ForcedAttribute a) {q : Qualifier}
    (step : ForcedQualifiers [q]) : ForcedAttribute (a.qualify q) := by
  match a with
  | .absolute .. | .ambiguous .. => exact forcedQualifiers_append forced step
  | .relative .. => exact ⟨forced.1, forcedQualifiers_append forced.2 step⟩
  | .conditional _ _ t f =>
    exact ⟨forced.1, forcedAttribute_qualify forced.2.1 step,
      forcedAttribute_qualify forced.2.2 step⟩

end Plan

namespace Planner

variable [HostObjects]

open Plan hiding id

/-- Fields and elements are selected from expressions that do not stop early there. -/
def SelectsForced (c : Planner) : Expr → List String → Prop
  | .select id operand _, _ => c.isResolved id = true ∨ ¬ operand.StopsSelected
  | .call _ function (operand :: _), _ => function = Operator.index → ¬ operand.StopsSelected
  | _, _ => True

structure Exhausts (c : Planner) : Prop where
  exhaustive : c.options.exhaustive = true
  plain : c.options.optimize = false

/-- The plan of an expression is forced, and so is what a selection takes of it. -/
structure ForcedFor (e : Expr) (p : Plan) : Prop where
  whole : p.Forced false
  selected : ¬ e.StopsSelected → ForcedAttribute p.toAttribute

variable {c : Planner} {e : Expr} {p : Plan}

theorem forced_finished (exhausts : c.Exhausts) (forced : p.Forced true) :
    (c.finished p).Forced false := by
  simp only [finished, exhausts.plain]
  exact forced_decorate exhausts.exhaustive forced

theorem toAttribute_finished (exhausts : c.Exhausts) (p : Plan) :
    (c.finished p).toAttribute = p.toAttribute := by
  simp only [finished, exhausts.plain]
  exact toAttribute_decorate c.options p

theorem forcedFor_single (exhausts : c.Exhausts) (forced : p.Forced true)
    (regular : p.mayStopEarly = false) (single : p.toAttribute = .relative p.id p []) :
    ForcedFor e (c.finished p) where
  whole := forced_finished exhausts forced
  selected _ := by
    rw [toAttribute_finished exhausts, single]
    exact ⟨forced_of_mayStopEarly forced regular false, trivial⟩

theorem forcedFor_reference (exhausts : c.Exhausts) {a : Attribute} (id : Int)
    (forced : ForcedAttribute a) : ForcedFor e (c.finished (attr id a)) where
  whole := forced_finished exhausts ⟨fun _ => rfl, forced⟩
  selected _ := by
    rw [toAttribute_finished exhausts]
    exact forced

theorem forcedFor_stopping (exhausts : c.Exhausts) (stops : e.StopsSelected)
    (forced : p.Forced true) : ForcedFor e (c.finished p) where
  whole := forced_finished exhausts forced
  selected regular := absurd stops regular

theorem forcedFor_ident (exhausts : c.Exhausts) (locals : List String) (id : Int)
    (name : String) : ForcedFor e (c.finished (c.identPlan locals id name)) := by
  unfold identPlan
  split
  · exact forcedFor_single exhausts trivial rfl rfl
  · exact forcedFor_reference exhausts id trivial
  · split
    · exact forcedFor_reference exhausts id trivial
    · exact forcedFor_reference exhausts id trivial

theorem forcedFor_indexed (exhausts : c.Exhausts) (id : Int) {operand key : Plan}
    (referent : ForcedAttribute operand.toAttribute) (forced : key.Forced false) :
    ForcedFor e (c.finished (operand.indexed id key)) := by
  unfold indexed
  split
  · exact forcedFor_reference exhausts id (forcedAttribute_qualify referent trivial)
  · exact forcedFor_reference exhausts id (forcedAttribute_qualify referent ⟨forced, trivial⟩)

mutual

/-- Exhaustive planning makes forced plans where nothing is selected from what stops early there. -/
theorem forced_of_planned (exhausts : c.Exhausts) {e : Expr} {locals : List String} {p : Plan}
    (planned : Planned c e locals p) (everywhere : e.Everywhere c.SelectsForced locals) :
    ForcedFor e p := by
  have selects := everywhere.here
  match planned with
  | .literal => exact forcedFor_single exhausts trivial rfl rfl
  | .ident | .resolved _ => exact forcedFor_ident exhausts ..
  | .select unknown operandPlanned =>
    have operand := forced_of_planned exhausts operandPlanned everywhere.2
    have regular := selects.resolve_left (by rw [unknown]; exact Bool.false_ne_true)
    have step (id : Int) (field : String) (access : Option (String × FieldAccess)) :
        ForcedQualifiers [.field id field access] := trivial
    exact forcedFor_reference exhausts _
      (forcedAttribute_qualify (operand.selected regular) (step ..))
  | .presence operandPlanned =>
    have operand := (forced_of_planned exhausts operandPlanned everywhere.2).whole
    exact forcedFor_single exhausts operand rfl rfl
  | .both leftPlanned rightPlanned =>
    have left := (forced_of_planned exhausts leftPlanned everywhere.2.1).whole
    have right := (forced_of_planned exhausts rightPlanned everywhere.2.2.1).whole
    exact forcedFor_stopping exhausts (.operator (.inl rfl)) ⟨rfl, left, right⟩
  | .either leftPlanned rightPlanned =>
    have left := (forced_of_planned exhausts leftPlanned everywhere.2.1).whole
    have right := (forced_of_planned exhausts rightPlanned everywhere.2.2.1).whole
    exact forcedFor_stopping exhausts (.operator (.inr rfl)) ⟨rfl, left, right⟩
  | .index operandPlanned keyPlanned =>
    have operand := forced_of_planned exhausts operandPlanned everywhere.2.1
    have key := (forced_of_planned exhausts keyPlanned everywhere.2.2.1).whole
    exact forcedFor_indexed exhausts _ (operand.selected (selects rfl)) key
  | .conditional guardPlanned whenTruePlanned whenFalsePlanned =>
    have guard := (forced_of_planned exhausts guardPlanned everywhere.2.1).whole
    have whenTrue := forced_of_planned exhausts whenTruePlanned everywhere.2.2.1
    have whenFalse := forced_of_planned exhausts whenFalsePlanned everywhere.2.2.2.1
    refine ⟨forced_finished exhausts ⟨rfl, guard, whenTrue.whole, whenFalse.whole⟩,
      fun regular => ?_⟩
    rw [toAttribute_finished exhausts]
    exact ⟨guard, whenTrue.selected fun stops => regular (.whenTrue rfl stops),
      whenFalse.selected fun stops => regular (.whenFalse rfl stops)⟩
  | .call _ argsPlanned =>
    have args := forcedAll_of_planned exhausts argsPlanned everywhere.2
    exact forcedFor_single exhausts args rfl rfl
  | .member _ targetPlanned argsPlanned =>
    have target := (forced_of_planned exhausts targetPlanned everywhere.2.1).whole
    have args := forcedAll_of_planned exhausts argsPlanned everywhere.2.2
    exact forcedFor_single exhausts ⟨target, args⟩ rfl rfl
  | .list elementsPlanned =>
    have elements := forcedAll_of_planned exhausts elementsPlanned everywhere.2
    exact forcedFor_single exhausts elements rfl rfl
  | .mapping entriesPlanned =>
    have entries := forcedKeyed_of_planned exhausts entriesPlanned everywhere.2
    exact forcedFor_single exhausts entries rfl rfl
  | .object _ fieldsPlanned =>
    have fields := forcedFields_of_planned exhausts fieldsPlanned everywhere.2
    exact forcedFor_single exhausts fields rfl rfl
  | .loop rangePlanned initPlanned conditionPlanned stepPlanned resultPlanned =>
    obtain ⟨-, rangeAsked, initAsked, conditionAsked, stepAsked, resultAsked⟩ := everywhere
    have range := (forced_of_planned exhausts rangePlanned rangeAsked).whole
    have init := (forced_of_planned exhausts initPlanned initAsked).whole
    have condition := (forced_of_planned exhausts conditionPlanned conditionAsked).whole
    have step := (forced_of_planned exhausts stepPlanned stepAsked).whole
    have result := (forced_of_planned exhausts resultPlanned resultAsked).whole
    exact forcedFor_stopping exhausts .loop ⟨rfl, range, init, condition, step, result⟩

theorem forcedAll_of_planned (exhausts : c.Exhausts) {es : List Expr} {locals : List String}
    {ps : List Plan} (planned : PlannedAll c es locals ps)
    (everywhere : Expr.EverywhereAll c.SelectsForced es locals) : ForcedAll ps := by
  match planned with
  | .nil => exact trivial
  | .cons first others =>
    exact ⟨(forced_of_planned exhausts first everywhere.1).whole,
      forcedAll_of_planned exhausts others everywhere.2⟩

theorem forcedKeyed_of_planned (exhausts : c.Exhausts) {entries : List Entry}
    {locals : List String} {ps : List (Plan × Plan)}
    (planned : PlannedKeyed c entries locals ps)
    (everywhere : Expr.EverywhereIn c.SelectsForced entries locals) : ForcedKeyed ps := by
  match planned with
  | .nil => exact trivial
  | .cons key value others =>
    exact ⟨(forced_of_planned exhausts key everywhere.1).whole,
      (forced_of_planned exhausts value everywhere.2.1).whole,
      forcedKeyed_of_planned exhausts others everywhere.2.2⟩

theorem forcedFields_of_planned (exhausts : c.Exhausts) {entries : List Entry}
    {locals : List String} {ps : List (String × Plan)}
    (planned : PlannedFields c entries locals ps)
    (everywhere : Expr.EverywhereIn c.SelectsForced entries locals) : ForcedFields ps := by
  match planned with
  | .nil => exact trivial
  | .cons value others =>
    exact ⟨(forced_of_planned exhausts value everywhere.1).whole,
      forcedFields_of_planned exhausts others everywhere.2⟩

end

end Planner

namespace Environment

open Planning

section

variable [HostObjects]

/-- Exhaustive programs evaluate all operands, branches and elements, where nothing is selected from
what stops early: they run as the plan that is wrapped throughout. -/
theorem exhaustive_evaluates_all (env : Environment) (exhausts : env.options.exhaustive = true)
    (plain : env.options.optimize = false) {checked : CheckedExpr}
    (forced : checked.expr.Everywhere (env.planner checked).SelectsForced []) {program : Program}
    (planned : outcome (env.plan checked) = .ok program) (scope : Scope) :
    program.eval scope = program.root.exhausted.eval program.provider false scope := by
  obtain ⟨made, -⟩ := plan_ok planned
  have rules := (env.planner checked).planned_of_outcome checked.expr [] made
  have root := (Planner.forced_of_planned ⟨exhausts, plain⟩ rules forced).whole
  exact Plan.eval_exhausted program.provider root false scope

end

attribute [local instance] HostObjects.silent

/-- `(a ? b : c).f || d` -/
def branchFieldOrOther : Expr :=
  .call 7 Operator.logicalOr
    [.select 5 (.call 4 Operator.conditional [.ident 1 "a", .ident 2 "b", .ident 3 "c"]) "f",
      .ident 6 "d"]

theorem branchFieldOrOther_evaluates_all :
    let env : Environment := { options := { exhaustive := true } }
    let scope : Scope := .function fun name => if name = "a" then some (.bool true) else none
    ∃ program, outcome (env.plan (.unchecked branchFieldOrOther)) = .ok program ∧
      program.eval scope = program.root.exhausted.eval program.provider false scope := by
  intro env scope
  have branches : ¬ (Expr.call 4 Operator.conditional
      [.ident 1 "a", .ident 2 "b", .ident 3 "c"]).StopsSelected := by
    rintro (logical | _ | ⟨-, _ | _⟩ | ⟨-, _ | _⟩)
    exact absurd logical (by decide)
  have forced : branchFieldOrOther.Everywhere
      (env.planner (.unchecked branchFieldOrOther)).SelectsForced [] :=
    ⟨fun index => absurd index (by decide), ⟨.inr branches, fun index => absurd index (by decide),
      trivial, trivial, trivial, trivial⟩, trivial, trivial⟩
  obtain ⟨program, planned⟩ : ∃ program,
      outcome (env.plan (.unchecked branchFieldOrOther)) = .ok program := ⟨_, rfl⟩
  exact ⟨program, planned, exhaustive_evaluates_all env rfl rfl forced planned scope⟩

/-- Of `(!false || !true).f` the right operand is left out: one invocation and one selection are
done, of two and one. -/
theorem selected_operand_left_out :
    let env : Environment := { options := { exhaustive := true } }
    let e : Expr := .select 6 (.call 5 Operator.logicalOr
      [.call 2 Operator.logicalNot [.literal 1 (.bool false)],
        .call 4 Operator.logicalNot [.literal 3 (.bool true)]]) "f"
    (outcome (env.plan (.unchecked e))).toOption.map (fun program =>
      ((program.eval .empty).work,
        (program.root.exhausted.eval program.provider false .empty).work)) = some (2, 3) := by
  decide +kernel

end Environment

end ExprEngine
