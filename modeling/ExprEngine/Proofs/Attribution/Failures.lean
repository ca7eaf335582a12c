import ExprEngine.Environment
import ExprEngine.Proofs.Attribution.Plans
import ExprEngine.Proofs.Meaning.Flattening

/-!
# Attribution of failures

The plan of an expression blames nodes of the expression only. Whole constants, a provider that
fails without a name for where, and whole bindings are all that is asked for, and the options of
planning do not matter.
-/

namespace ExprEngine

namespace Expr

mutual

/-- The ids of the nodes; the entries of maps and objects are none. -/
def nodeIds : Expr → List Int
  | literal id _ | ident id _ => [id]
  | select id operand _ | presence id operand _ => id :: nodeIds operand
  | call id _ args => id :: nodeIdsAll args
  | member id target _ args => id :: (nodeIds target ++ nodeIdsAll args)
  | list id elements => id :: nodeIdsAll elements
  | mapping id entries => id :: nodeIdsIn entries
  | object id _ entries => id :: nodeIdsIn entries
  | loop id _ range _ init condition step result =>
    id :: (nodeIds range ++ (nodeIds init ++ (nodeIds condition ++
      (nodeIds step ++ nodeIds result))))
termination_by structural e => e

def nodeIdsAll : List Expr → List Int
  | [] => []
  | e :: rest => nodeIds e ++ nodeIdsAll rest
termination_by structural es => es

def nodeIdsIn : List Entry → List Int
  | [] => []
  | .field _ _ value :: rest => nodeIds value ++ nodeIdsIn rest
  | .keyed _ key value :: rest => nodeIds key ++ (nodeIds value ++ nodeIdsIn rest)
termination_by structural entries => entries

end

theorem operands_inside {id : Int} {function : String} {a b : Expr} {nodes : List Int}
    (inside : (call id function [a, b]).nodeIds ⊆ nodes) :
    id ∈ nodes ∧ a.nodeIds ⊆ nodes ∧ b.nodeIds ⊆ nodes := by
  obtain ⟨node, inside⟩ := List.cons_subset.mp inside
  obtain ⟨first, inside⟩ := List.append_subset.mp inside
  obtain ⟨second, -⟩ := List.append_subset.mp inside
  exact ⟨node, first, second⟩

end Expr

namespace Planner

variable [HostObjects] [TrustedObjects]

open Planning

open Plan hiding id

/-- Plans have no failures of their own: constants are whole, and what is called or built fails
without a name for where. -/
structure Blameless (c : Planner) (nodes : List Int) : Prop where
  registry : c.registry = Registry.standard
  provider : c.provider.Fresh
  constants : ∀ id ∈ nodes, ∀ r v, c.checked.reference? id = some r → r.value = some v →
    v.isWhole = true

variable {c : Planner} {nodes : List Int}

theorem fieldAccess_fresh (blameless : c.Blameless nodes) (operand : Int) (field : String) :
    ∀ typeName a, c.fieldAccess operand field = some (typeName, a) →
      ∀ v : Value, v.isWhole = true → (a.get v).Fresh := by
  intro typeName a found
  unfold fieldAccess at found
  split at found
  · split at found
    · obtain ⟨access, declared, same⟩ := Option.map_eq_some_iff.mp found
      obtain ⟨-, rfl⟩ := Prod.mk.inj same
      exact blameless.provider.access _ field access declared
    · cases found
  · cases found

theorem identPlan_attributed (blameless : c.Blameless nodes) {id : Int} (node : id ∈ nodes)
    (name : String) (locals : List String) :
    (c.finished (c.identPlan locals id name)).Attributed c.provider nodes := by
  obtain ⟨-, leaf, plain⟩ := identPlan_form c locals id name
  apply finished_plain_attributed leaf plain
  unfold identPlan
  split
  · next v known =>
    exact const_attributed node (.whole (blameless.constants id node _ v known rfl))
  · exact attr_attributed node (Attribute.absolute_attributed blameless.provider node false _)
  · split
    · exact attr_attributed node (Attribute.absolute_attributed blameless.provider node true [name])
    · exact attr_attributed node (Attribute.ambiguous_attributed blameless.provider node _)

mutual

theorem attributed_of_planned [TrustedObjects.Sound] (blameless : c.Blameless nodes) {e : Expr}
    {locals : List String} {p : Plan} (planned : Planned c e locals p)
    (literals : e.Everywhere LiteralWhole locals) (inside : e.nodeIds ⊆ nodes) :
    p.Attributed c.provider nodes := by
  -- Every rule stamps failures with the id of its node, and leaves those of the parts as they are.
  match planned with
  | .literal =>
    obtain ⟨node, -⟩ := List.cons_subset.mp inside
    exact finished_plain_attributed rfl rfl (const_attributed node (.whole literals))
  | .ident =>
    obtain ⟨node, -⟩ := List.cons_subset.mp inside
    exact identPlan_attributed blameless node _ locals
  | .resolved _ =>
    obtain ⟨node, -⟩ := List.cons_subset.mp inside
    exact identPlan_attributed blameless node _ locals
  | @Planned.select _ _ id operand field _ _ _ operandPlanned =>
    obtain ⟨node, inside⟩ := List.cons_subset.mp inside
    have attributed := attributed_of_planned blameless operandPlanned literals.2 inside
    exact finished_plain_attributed rfl rfl (qualify_field_attributed node field
      (fieldAccess_fresh blameless operand.id field) attributed)
  | .presence operandPlanned =>
    obtain ⟨node, inside⟩ := List.cons_subset.mp inside
    have attributed := attributed_of_planned blameless operandPlanned literals.2 inside
    exact finished_plain_attributed rfl rfl (presence_attributed node _ _ attributed)
  | .both left right =>
    obtain ⟨node, first, second⟩ := Expr.operands_inside inside
    exact finished_plain_attributed rfl rfl (both_attributed node
      (attributed_of_planned blameless left literals.2.1 first)
      (attributed_of_planned blameless right literals.2.2.1 second))
  | .either left right =>
    obtain ⟨node, first, second⟩ := Expr.operands_inside inside
    exact finished_plain_attributed rfl rfl (either_attributed node
      (attributed_of_planned blameless left literals.2.1 first)
      (attributed_of_planned blameless right literals.2.2.1 second))
  | .index operand key =>
    obtain ⟨node, first, second⟩ := Expr.operands_inside inside
    exact finished_plain_attributed rfl rfl (indexed_attributed node
      (attributed_of_planned blameless operand literals.2.1 first)
      (attributed_of_planned blameless key literals.2.2.1 second))
  | .conditional guard whenTrue whenFalse =>
    obtain ⟨node, inside⟩ := List.cons_subset.mp inside
    obtain ⟨first, inside⟩ := List.append_subset.mp inside
    obtain ⟨second, inside⟩ := List.append_subset.mp inside
    obtain ⟨third, -⟩ := List.append_subset.mp inside
    exact finished_conditional_attributed node
      (attributed_of_planned blameless guard literals.2.1 first)
      (attributed_of_planned blameless whenTrue literals.2.2.1 second)
      (attributed_of_planned blameless whenFalse literals.2.2.2.1 third)
  | .call _ args =>
    obtain ⟨node, inside⟩ := List.cons_subset.mp inside
    exact finished_call_attributed blameless.registry node _
      (attributed_of_plannedAll blameless args literals.2 inside)
  | .member _ target args =>
    obtain ⟨node, inside⟩ := List.cons_subset.mp inside
    obtain ⟨first, others⟩ := List.append_subset.mp inside
    have receiver := attributed_of_planned blameless target literals.2.1 first
    have rest := attributed_of_plannedAll blameless args literals.2.2 others
    exact finished_call_attributed blameless.registry node _
      (List.forall_mem_cons.mpr ⟨receiver, rest⟩)
  | .list elements =>
    obtain ⟨node, inside⟩ := List.cons_subset.mp inside
    exact finished_plain_attributed rfl rfl (list_attributed node
      (attributed_of_plannedAll blameless elements literals.2 inside))
  | .mapping entries =>
    obtain ⟨node, inside⟩ := List.cons_subset.mp inside
    exact finished_plain_attributed rfl rfl (mapping_attributed node
      (attributed_of_plannedKeyed blameless entries literals.2 inside))
  | .object _ fields =>
    obtain ⟨node, inside⟩ := List.cons_subset.mp inside
    exact finished_plain_attributed rfl rfl (object_attributed blameless.provider node _
      (attributed_of_plannedFields blameless fields literals.2 inside))
  | .loop range init condition step result =>
    obtain ⟨node, inside⟩ := List.cons_subset.mp inside
    obtain ⟨first, inside⟩ := List.append_subset.mp inside
    obtain ⟨second, inside⟩ := List.append_subset.mp inside
    obtain ⟨third, inside⟩ := List.append_subset.mp inside
    obtain ⟨fourth, fifth⟩ := List.append_subset.mp inside
    exact finished_plain_attributed rfl rfl (loop_attributed node
      (attributed_of_planned blameless range literals.2.1 first)
      (attributed_of_planned blameless init literals.2.2.1 second)
      (attributed_of_planned blameless condition literals.2.2.2.1 third)
      (attributed_of_planned blameless step literals.2.2.2.2.1 fourth)
      (attributed_of_planned blameless result literals.2.2.2.2.2 fifth))

theorem attributed_of_plannedAll [TrustedObjects.Sound] (blameless : c.Blameless nodes)
    {es : List Expr} {locals : List String} {ps : List Plan} (planned : PlannedAll c es locals ps)
    (literals : Expr.EverywhereAll LiteralWhole es locals) (inside : Expr.nodeIdsAll es ⊆ nodes) :
    ∀ p ∈ ps, p.Attributed c.provider nodes := by
  match planned with
  | .nil => exact fun _ member => by cases member
  | .cons first others =>
    obtain ⟨here, later⟩ := List.append_subset.mp inside
    exact List.forall_mem_cons.mpr ⟨attributed_of_planned blameless first literals.1 here,
      attributed_of_plannedAll blameless others literals.2 later⟩

theorem attributed_of_plannedKeyed [TrustedObjects.Sound] (blameless : c.Blameless nodes)
    {entries : List Entry} {locals : List String} {ps : List (Plan × Plan)}
    (planned : PlannedKeyed c entries locals ps)
    (literals : Expr.EverywhereIn LiteralWhole entries locals)
    (inside : Expr.nodeIdsIn entries ⊆ nodes) :
    ∀ e ∈ ps, e.1.Attributed c.provider nodes ∧ e.2.Attributed c.provider nodes := by
  match planned with
  | .nil => exact fun _ member => by cases member
  | .cons key value others =>
    obtain ⟨here, inside⟩ := List.append_subset.mp inside
    obtain ⟨beside, later⟩ := List.append_subset.mp inside
    exact List.forall_mem_cons.mpr ⟨⟨attributed_of_planned blameless key literals.1 here,
        attributed_of_planned blameless value literals.2.1 beside⟩,
      attributed_of_plannedKeyed blameless others literals.2.2 later⟩

theorem attributed_of_plannedFields [TrustedObjects.Sound] (blameless : c.Blameless nodes)
    {entries : List Entry} {locals : List String} {ps : List (String × Plan)}
    (planned : PlannedFields c entries locals ps)
    (literals : Expr.EverywhereIn LiteralWhole entries locals)
    (inside : Expr.nodeIdsIn entries ⊆ nodes) :
    ∀ f ∈ ps, f.2.Attributed c.provider nodes := by
  match planned with
  | .nil => exact fun _ member => by cases member
  | .cons value others =>
    obtain ⟨here, later⟩ := List.append_subset.mp inside
    exact List.forall_mem_cons.mpr ⟨attributed_of_planned blameless value literals.1 here,
      attributed_of_plannedFields blameless others literals.2 later⟩

end

end Planner

namespace Environment

open Planning

/-- Every failure of a program can be traced to nodes of its expression, and without marked names
nothing is unknown. -/
theorem failures_attributed [HostObjects] [TrustedObjects] [TrustedObjects.Sound]
    (env : Environment) (standard : env.registry = Registry.standard)
    (provider : env.provider.Fresh) (checked : CheckedExpr)
    (literals : checked.expr.Everywhere Planner.LiteralWhole [])
    (constants : ∀ id ∈ checked.expr.nodeIds, ∀ r v, checked.reference? id = some r →
      r.value = some v → v.isWhole = true)
    {program : Program} (planned : outcome (env.plan checked) = .ok program) {scope : Scope}
    (whole : ∀ name v, (scope.resolve name).value = some v → v.isWhole = true) :
    (∀ e, (program.eval scope).value = .error e →
      ∃ id ∈ checked.expr.nodeIds, e.exprId = some id) ∧
    (∀ s, (program.eval scope).value = .unknown s →
      s.ids ≠ [] ∧ ∀ id ∈ s.ids, id ∈ checked.expr.nodeIds) ∧
    (scope.patterns = [] → (program.eval scope).value.isUnknown = false) := by
  obtain ⟨made, provided⟩ := plan_ok planned
  have blameless : (env.planner checked).Blameless checked.expr.nodeIds :=
    ⟨standard, provider, constants⟩
  have root : program.root.Attributed program.provider checked.expr.nodeIds :=
    provided ▸ Planner.attributed_of_planned blameless
      (Planner.planned_of_outcome _ checked.expr [] made) literals (List.Subset.refl _)
  have bound : scope.Attributed checked.expr.nodeIds :=
    fun name v found => .whole (whole name v found)
  have attributed := root.value false scope bound
  change (program.eval scope).value.Attributed _ _ at attributed
  refine ⟨fun e failed => ?_, fun s isUnknown => ?_, fun unmarked => ?_⟩
  · rw [failed] at attributed
    exact attributed.of_error
  · rw [isUnknown] at attributed
    exact attributed.of_unknown.2
  · cases value : (program.eval scope).value with
    | unknown s =>
      rw [value] at attributed
      exact absurd unmarked attributed.of_unknown.1
    | _ => rfl

attribute [local instance] HostObjects.accounts TrustedObjects.accounts
  TrustedObjects.accounts_sound

/-- `[x.isOverdrawn()][x.balance / 0]` -/
def failingKey : Expr :=
  .call 8 "_[_]" [.list 3 [.member 2 (.ident 1 "x") "isOverdrawn" []],
    .call 7 "_/_" [.select 5 (.ident 4 "x") "balance", .literal 6 (.int 0)]]

def allAccounts : Scope := .function fun _ => some (.account "ada" 1)

theorem failingKey_blames :
    let env : Environment := { options := ⟨true, true, true⟩ }
    ∃ program e, outcome (env.plan (.unchecked failingKey)) = .ok program ∧
      (program.eval allAccounts).value = .error e ∧
        ∃ id ∈ failingKey.nodeIds, e.exprId = some id := by
  intro env
  have failing : (outcome (env.plan (.unchecked failingKey))).toOption.map
      (fun program => (program.eval allAccounts).value.isError) = some true := by
    decide +kernel
  cases planned : outcome (env.plan (.unchecked failingKey)) with
  | error e =>
    rw [planned] at failing
    cases failing
  | ok program =>
    rw [planned] at failing
    have standard : env.registry = Registry.standard := by dsimp only [env]
    have provider : env.provider.Fresh := TypeTable.provider_fresh fun t member => by cases member
    have literals : failingKey.Everywhere Planner.LiteralWhole [] := by
      simp [failingKey, Expr.Everywhere, Expr.EverywhereAll, Planner.LiteralWhole, Value.isWhole]
    have whole : ∀ name v, (allAccounts.resolve name).value = some v → v.isWhole = true := by
      rintro name v found
      obtain rfl := Option.some.inj found
      rfl
    obtain ⟨blamed, -, -⟩ := failures_attributed env standard provider (.unchecked failingKey)
      literals (fun id _ r v found _ => by cases found) planned whole
    cases value : (program.eval allAccounts).value with
    | error e => exact ⟨program, e, rfl, value, blamed e value⟩
    | _ => simp [value, Except.toOption, Value.isError] at failing

end Environment

end ExprEngine
