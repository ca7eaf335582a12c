import ExprEngine.Environment
import ExprEngine.Proofs.Planning.Annotation

/-!
# Loop variables resolved to their own names

A checker may resolve the variable of a loop to the name that it is written with. The plan then
takes it for a variable of the caller: the frame of the loop still binds it, but the patterns of the
scope are asked before.
-/

namespace ExprEngine

namespace CheckedExpr

/-- The expression with these nodes resolved to these names. -/
def withNames (checked : CheckedExpr) (nodes : List (Int × String)) : CheckedExpr :=
  nodes.foldr (fun n c => c.annotate n.1 { name := some n.2 }) checked

variable {checked : CheckedExpr} {nodes : List (Int × String)}

@[simp] theorem expr_withNames : (checked.withNames nodes).expr = checked.expr := by
  induction nodes with
  | nil => rfl
  | cons n rest ih => exact ih

@[simp] theorem types_withNames : (checked.withNames nodes).types = checked.types := by
  induction nodes with
  | nil => rfl
  | cons n rest ih => exact ih

theorem reference?_withNames (id : Int) :
    (checked.withNames nodes).reference? id =
      ((nodes.lookup id).map fun x => ({ name := some x } : Reference)).or
        (checked.reference? id) := by
  induction nodes with
  | nil => rfl
  | cons n rest ih =>
    rw [List.lookup_cons]
    change List.lookup id ((n.1, _) :: (checked.withNames rest).references) = _
    rw [List.lookup_cons]
    cases id == n.1 with
    | true => rfl
    | false => exact ih

end CheckedExpr

/-- Of the nodes, those of the expression are identifiers in loops that bind a variable of their
name, and are resolved to it. -/
def Expr.OwnNames (nodes : List (Int × String)) : Expr → List String → Prop
  | .ident id name, locals => ∀ x, nodes.lookup id = some x → x = name ∧ name ∈ locals
  | .select id _ _, _ | .object id _ _, _ => nodes.lookup id = none
  | _, _ => True

/-- Scopes without patterns of these variables. -/
def Scope.Region.unnamed (vars : List String) : Scope.Region where
  Holds s := ∀ x ∈ vars, ∀ p ∈ s.patterns, p.name ≠ x
  empty _ _ _ member := nomatch member
  frame holds _ _ := holds

namespace Planner

open Planning

open Plan hiding id

variable {c : Planner} {nodes : List (Int × String)} {vars : List String}

def withNames (c : Planner) (nodes : List (Int × String)) : Planner :=
  { c with checked := c.checked.withNames nodes }

theorem reference?_of_unlisted {id : Int} (unlisted : nodes.lookup id = none) :
    (c.withNames nodes).checked.reference? id = c.checked.reference? id := by
  change (c.checked.withNames nodes).reference? id = _
  rw [CheckedExpr.reference?_withNames, unlisted]
  rfl

theorem identPlan_of_unlisted {id : Int} (unlisted : nodes.lookup id = none)
    (locals : List String) (name : String) :
    (c.withNames nodes).identPlan locals id name = c.identPlan locals id name := by
  rw [identPlan, identPlan, reference?_of_unlisted unlisted]
  rfl

theorem isResolved_of_unlisted {id : Int} (unlisted : nodes.lookup id = none) :
    (c.withNames nodes).isResolved id = c.isResolved id := by
  rw [isResolved, isResolved, reference?_of_unlisted unlisted]

theorem isResolved_of_silent {id : Int} (silent : c.checked.Silent id) :
    c.isResolved id = false := by
  unfold isResolved
  split
  · next r known =>
    obtain ⟨unnamed, open_⟩ := silent r known
    rw [unnamed, open_]
    rfl
  · rfl

/-- A node that was resolved before is none of those that are resolved now. -/
theorem unlisted_of_isResolved (silent : ∀ n ∈ nodes, c.checked.Silent n.1) {id : Int}
    (resolved : c.isResolved id = true) : nodes.lookup id = none := by
  cases found : nodes.lookup id with
  | none => rfl
  | some x =>
    have member := Value.mem_of_lookup found
    rw [isResolved_of_silent (silent _ member)] at resolved
    cases resolved

variable [HostObjects]

theorem identPlan_ownName (silent : ∀ n ∈ nodes, c.checked.Silent n.1)
    (named : ∀ n ∈ nodes, n.2 ∈ vars) {id : Int} {name : String} {locals : List String}
    (own : Expr.OwnNames nodes (.ident id name) locals) :
    Unfinished (.unnamed vars) c.provider (c.identPlan locals id name)
      ((c.withNames nodes).identPlan locals id name) := by
  cases found : nodes.lookup id with
  | none => exact identPlan_unfinished (identPlan_of_unlisted found locals name) c.provider
  | some x =>
    obtain ⟨rfl, bound⟩ := own x found
    have member := Value.mem_of_lookup found
    have before : c.identPlan locals id x = .attr id (.absolute id true [x] []) :=
      identPlan_of_silent (silent _ member) bound
    have after : (c.withNames nodes).identPlan locals id x =
        .attr id (.absolute id false [x] []) := by
      have known : (c.withNames nodes).checked.reference? id = some { name := some x } := by
        change (c.checked.withNames nodes).reference? id = _
        rw [CheckedExpr.reference?_withNames, found]
        rfl
      simp only [identPlan, known]
    rw [before, after]
    refine attr_unfinished id (Attribute.absolute_interchanges id (.inr ?_) (.of_eq rfl))
    intro scope holds name listed
    obtain rfl := List.mem_singleton.mp listed
    exact holds name (named _ member)

theorem ownNames_simulates (silent : ∀ n ∈ nodes, c.checked.Silent n.1)
    (named : ∀ n ∈ nodes, n.2 ∈ vars) :
    SimulatesWhere c (c.withNames nodes) (fun _ _ => InterchangesIn (.unnamed vars) c.provider)
      (Expr.OwnNames nodes) where
  toFollows := by
    have accesses (operand : Int) (field : String) :
        (c.withNames nodes).fieldAccess operand field = c.fieldAccess operand field := by
      simp only [fieldAccess, withNames, CheckedExpr.type?, CheckedExpr.types_withNames]
    refine follows_interchanges rfl rfl (fun _ => rfl) (fun id operand field => ?_)
      (fun id operand field v => by rw [accesses]) (fun id field locals known => ?_)
    · rw [accesses]
      exact Qualifier.MatchIn.of_eq rfl
    · exact identPlan_unfinished
        (identPlan_of_unlisted (unlisted_of_isResolved silent known) locals field) c.provider
  resolves unlisted := (isResolved_of_unlisted unlisted).symm
  names {id name _ _} unlisted := by
    rw [typeName, typeName, reference?_of_unlisted unlisted]
    rfl
  ident own := finished_interchanges rfl rfl (identPlan_ownName silent named own)

end Planner

namespace Environment

open Planning

section

variable [HostObjects]

/-- Resolving loop variables to their own names changes no run in a scope without patterns of these
variables. -/
theorem withNames_invisible (env : Environment) {checked : CheckedExpr}
    {nodes : List (Int × String)} (silent : ∀ n ∈ nodes, checked.Silent n.1)
    (own : checked.expr.Everywhere (Expr.OwnNames nodes) []) {scope : Scope}
    (unnamed : ∀ n ∈ nodes, ∀ p ∈ scope.patterns, p.name ≠ n.2) :
    Agree (fun p q => p.eval scope = q.eval scope) (outcome (env.plan checked))
      (outcome (env.plan (checked.withNames nodes))) := by
  have simulates := @Planner.ownNames_simulates (env.planner checked) nodes (nodes.map Prod.snd) _
    silent fun n member => List.mem_map_of_mem member
  have planned := Planner.agree_where simulates checked.expr [] own
  rw [plan, plan, outcome_bind, outcome_bind, Planner.plan, Planner.plan]
  change Agree _ _ ((outcome (((env.planner checked).withNames nodes).planExpr
    (checked.withNames nodes).expr [])).bind _)
  rw [CheckedExpr.expr_withNames]
  refine planned.bind fun p q pair => .ok ?_
  refine pair.related.eval_in false fun x member => ?_
  obtain ⟨n, listed, rfl⟩ := List.mem_map.mp member
  exact unnamed n listed

def lastOfNull (x : String) : CheckedExpr :=
  .unchecked (.loop 7 x (.list 2 [.literal 1 .null]) "last" (.literal 3 .null)
    (.literal 4 (.bool true)) (.ident 5 x) (.ident 6 "last"))

/-- Its plan; the element is a variable of the loop or one of the caller. -/
def lastOfNullPlan (x : String) (isLocal : Bool) : Plan :=
  .loop 7 x (.list 2 [.const 1 .null]) "last" (.const 3 .null) (.const 4 (.bool true))
    (.attr 5 (.absolute 5 isLocal [x] [])) (.attr 6 (.absolute 6 true ["last"] []))

theorem outcome_plan_lastOfNull {x : String} {checked : CheckedExpr} {isLocal : Bool}
    (expr : checked.expr = (lastOfNull x).expr)
    (element : (planner {} checked).identPlan [x, "last"] 5 x =
      .attr 5 (.absolute 5 isLocal [x] []))
    (last : (planner {} checked).identPlan ["last"] 6 "last" =
      .attr 6 (.absolute 6 true ["last"] [])) :
    outcome (plan {} checked) = .ok ⟨lastOfNullPlan x isLocal, TypeTable.empty.provider⟩ := by
  have plain (p : Plan) : (planner {} checked).finished p = p := rfl
  have asked : (planner {} checked).checked.expr = (lastOfNull x).expr := expr
  rw [plan, outcome_bind, Planner.plan, asked]
  simp only [lastOfNull, CheckedExpr.unchecked, Planner.planExpr, Planner.planAll, outcome_bind,
    Planner.outcome_finish, plain, element, last]
  rfl

theorem value_lastOfNullPlan (x : String) (isLocal : Bool) (c : Planner) (scope : Scope) :
    ((lastOfNullPlan x isLocal).eval c.provider false scope).value =
      if isLocal = false ∧ scope.patterns.filter (·.name == x) ≠ [] then .unknown (.singleton 5)
      else .null := by
  obtain ⟨v, same, regular⟩ : ∃ v : Value,
      v = (if isLocal = false ∧ scope.patterns.filter (·.name == x) ≠ [] then
        .unknown (.singleton 5) else .null) ∧ v.isError = false :=
    ⟨_, rfl, by split <;> rfl⟩
  have element (accu : Value) :
      ((Plan.attr 5 (.absolute 5 isLocal [x] [])).eval c.provider false
        (Plan.inside scope "last" x accu .null)).value = v :=
    (Planner.value_of_name isLocal (by simp [Plan.inside, Scope.resolve])).trans same.symm
  have last (accu : Value) :
      ((Plan.attr 6 (.absolute 6 true ["last"] [])).eval c.provider false
        (.frame scope "last" accu)).value = accu :=
    (Planner.value_of_name true (by simp [Scope.resolve])).trans (if_neg (by simp))
  have ranged : ((Plan.list 2 [.const 1 .null]).eval c.provider false scope).value =
      .list [.null] := rfl
  have goes (s : Scope) :
      ((Plan.const 4 (.bool true)).eval c.provider false s).value = .bool true := rfl
  have iterated (accu : Value) : (iterate false
      (fun accu y => (Plan.const 4 (.bool true)).eval c.provider false
        (Plan.inside scope "last" x accu y))
      (fun accu y => (Plan.attr 5 (.absolute 5 isLocal [x] [])).eval c.provider false
        (Plan.inside scope "last" x accu y)) [.null] accu).value = .ok v := by
    rw [value_iterate_cons, goes, element, regular]
    rfl
  rw [lastOfNullPlan, Plan.value_loop, ranged, ← same]
  simp only [Value.elements?, iterated, last]
  rfl

/-- Loop variables of these names can be resolved to themselves without any effect in exactly the
scopes whose patterns name none of them. -/
theorem withNames_invisible_iff (vars : List String) (scope : Scope) :
    (∀ x ∈ vars, ∀ p ∈ scope.patterns, p.name ≠ x) ↔
      ∀ (env : Environment) (checked : CheckedExpr) (nodes : List (Int × String)),
        (∀ n ∈ nodes, n.2 ∈ vars ∧ checked.Silent n.1) →
        checked.expr.Everywhere (Expr.OwnNames nodes) [] →
        Agree (fun p q => p.eval scope = q.eval scope) (outcome (env.plan checked))
          (outcome (env.plan (checked.withNames nodes))) := by
  constructor
  · intro unnamed env checked nodes listed own
    exact withNames_invisible env (fun n member => (listed n member).2) own
      fun n member => unnamed n.2 (listed n member).1
  · intro invisible x member p marks named
    have own : (lastOfNull x).expr.Everywhere (Expr.OwnNames [(5, x)]) [] := by
      simp [lastOfNull, CheckedExpr.unchecked, Expr.Everywhere, Expr.EverywhereAll, Expr.OwnNames,
        List.lookup_cons]
    have listed : ∀ n ∈ [((5 : Int), x)], n.2 ∈ vars ∧ (lastOfNull x).Silent n.1 := by
      intro n here
      obtain rfl := List.mem_singleton.mp here
      exact ⟨member, fun _ known => by cases known⟩
    have same := invisible {} (lastOfNull x) [(5, x)] listed own
    have silent (id : Int) : (lastOfNull x).Silent id := fun _ known => by cases known
    have before := @outcome_plan_lastOfNull _ x (lastOfNull x) true rfl
      (Planner.identPlan_of_silent (silent 5) List.mem_cons_self)
      (Planner.identPlan_of_silent (silent 6) List.mem_cons_self)
    have after := @outcome_plan_lastOfNull _ x ((lastOfNull x).withNames [(5, x)]) false rfl rfl rfl
    rw [before, after] at same
    have values := congrArg Run.value same.related
    have shown : scope.patterns.filter (·.name == x) ≠ [] :=
      List.ne_nil_of_mem (List.mem_filter.mpr ⟨marks, by simpa using named⟩)
    have left := value_lastOfNullPlan x true (planner {} (lastOfNull x)) scope
    have right := value_lastOfNullPlan x false (planner {} (lastOfNull x)) scope
    rw [if_neg (by simp)] at left
    rw [if_pos ⟨rfl, shown⟩] at right
    exact absurd (left.symm.trans (values.trans right)) (by simp)

end

attribute [local instance] HostObjects.silent

def markedElement : Scope := .marked .empty [⟨"x", []⟩]

/-- A loop variable that is resolved to its own name is taken for the caller's. -/
theorem ownName_marked :
    let checked := lastOfNull "x"
    checked.expr.Everywhere (Expr.OwnNames [(5, "x")]) [] ∧
      ∃ p q, outcome (plan {} checked) = .ok p ∧
        outcome (plan {} (checked.withNames [(5, "x")])) = .ok q ∧
        (p.eval markedElement).value = .null ∧
        (q.eval markedElement).value = .unknown (.singleton 5) := by
  intro checked
  refine ⟨?_, _, _, rfl, rfl, rfl, rfl⟩
  simp [checked, lastOfNull, CheckedExpr.unchecked, Expr.Everywhere, Expr.EverywhereAll,
    Expr.OwnNames, List.lookup_cons]

end Environment

end ExprEngine
