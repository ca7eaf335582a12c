import ExprEngine.Plan.Bounds
import ExprEngine.Proofs.Planning.Congruence
import ExprEngine.Proofs.Planning.Simulation

/-!
# Wrapped plans

The options of a planner put wrappers around plans. `Wraps` relates a plan with wrappers, anywhere
in it, to the plan without them. Everything that planning looks at in a plan is the same for both,
so that planning with wrappers makes the plans of planning without, wrapped. Plans are wrapped for
exhaustive evaluation only where that is allowed by `free`.
-/

namespace ExprEngine

mutual

inductive Plan.Wraps (free : Plan → Prop) : Plan → Plan → Prop where
  | const (id v) : Plan.Wraps free (.const id v) (.const id v)
  | attr (id) {a b} (referent : Attribute.Wraps free a b) :
      Plan.Wraps free (.attr id a) (.attr id b)
  | both (id) {p p' q q'} (left : Plan.Wraps free p p') (right : Plan.Wraps free q q') :
      Plan.Wraps free (.both id p q) (.both id p' q')
  | either (id) {p p' q q'} (left : Plan.Wraps free p p') (right : Plan.Wraps free q q') :
      Plan.Wraps free (.either id p q) (.either id p' q')
  | conditional (id) {g g' p p' q q'} (guard : Plan.Wraps free g g')
      (whenTrue : Plan.Wraps free p p') (whenFalse : Plan.Wraps free q q') :
      Plan.Wraps free (.conditional id g p q) (.conditional id g' p' q')
  | call (id function overloads) {ps qs} (args : Plan.WrapsAll free ps qs) :
      Plan.Wraps free (.call id function ps overloads) (.call id function qs overloads)
  | list (id) {ps qs} (elements : Plan.WrapsAll free ps qs) :
      Plan.Wraps free (.list id ps) (.list id qs)
  | mapping (id) {ps qs} (entries : Plan.WrapsKeyed free ps qs) :
      Plan.Wraps free (.mapping id ps) (.mapping id qs)
  | object (id typeName) {ps qs} (fields : Plan.WrapsFields free ps qs) :
      Plan.Wraps free (.object id typeName ps) (.object id typeName qs)
  | presence (id field access) {p q} (operand : Plan.Wraps free p q) :
      Plan.Wraps free (.presence id p field access) (.presence id q field access)
  | loop (id iterVar accuVar) {o o' i i' w w' s s' r r'} (range : Plan.Wraps free o o')
      (init : Plan.Wraps free i i') (condition : Plan.Wraps free w w')
      (step : Plan.Wraps free s s') (result : Plan.Wraps free r r') :
      Plan.Wraps free (.loop id iterVar o accuVar i w s r) (.loop id iterVar o' accuVar i' w' s' r')
  | membership (id items keys function overloads) {p q} (element : Plan.Wraps free p q) :
      Plan.Wraps free (.membership id p items keys function overloads)
        (.membership id q items keys function overloads)
  | search (id source pattern function overloads) {p q} (text : Plan.Wraps free p q) :
      Plan.Wraps free (.search id p source pattern function overloads)
        (.search id q source pattern function overloads)
  | exhaustive {p q} (freed : free p) (stops : p.mayStopEarly = true)
      (inner : Plan.Wraps free p q) : Plan.Wraps free (.exhaustive p) q
  | observed {p q} (inner : Plan.Wraps free p q) : Plan.Wraps free (.observed p) q

inductive Plan.WrapsAll (free : Plan → Prop) : List Plan → List Plan → Prop where
  | nil : Plan.WrapsAll free [] []
  | cons {p q ps qs} (first : Plan.Wraps free p q) (others : Plan.WrapsAll free ps qs) :
      Plan.WrapsAll free (p :: ps) (q :: qs)

inductive Plan.WrapsKeyed (free : Plan → Prop) :
    List (Plan × Plan) → List (Plan × Plan) → Prop where
  | nil : Plan.WrapsKeyed free [] []
  | cons {p p' q q' ps qs} (key : Plan.Wraps free p p') (value : Plan.Wraps free q q')
      (others : Plan.WrapsKeyed free ps qs) :
      Plan.WrapsKeyed free ((p, q) :: ps) ((p', q') :: qs)

inductive Plan.WrapsFields (free : Plan → Prop) :
    List (String × Plan) → List (String × Plan) → Prop where
  | nil : Plan.WrapsFields free [] []
  | cons (name) {p q ps qs} (value : Plan.Wraps free p q) (others : Plan.WrapsFields free ps qs) :
      Plan.WrapsFields free ((name, p) :: ps) ((name, q) :: qs)

inductive Attribute.Wraps (free : Plan → Prop) : Attribute → Attribute → Prop where
  | absolute (id isLocal names) {qs rs} (qualifiers : Plan.WrapsQualifiers free qs rs) :
      Attribute.Wraps free (.absolute id isLocal names qs) (.absolute id isLocal names rs)
  | ambiguous (id names) {qs rs} (qualifiers : Plan.WrapsQualifiers free qs rs) :
      Attribute.Wraps free (.ambiguous id names qs) (.ambiguous id names rs)
  | relative (id) {p q qs rs} (operand : Plan.Wraps free p q)
      (qualifiers : Plan.WrapsQualifiers free qs rs) :
      Attribute.Wraps free (.relative id p qs) (.relative id q rs)
  | conditional (id) {g g' t t' f f'} (guard : Plan.Wraps free g g')
      (whenTrue : Attribute.Wraps free t t') (whenFalse : Attribute.Wraps free f f') :
      Attribute.Wraps free (.conditional id g t f) (.conditional id g' t' f')

inductive Plan.WrapsQualifiers (free : Plan → Prop) : List Qualifier → List Qualifier → Prop where
  | nil : Plan.WrapsQualifiers free [] []
  | field (id name access) {qs rs} (others : Plan.WrapsQualifiers free qs rs) :
      Plan.WrapsQualifiers free (.field id name access :: qs) (.field id name access :: rs)
  | constant (id key) {qs rs} (others : Plan.WrapsQualifiers free qs rs) :
      Plan.WrapsQualifiers free (.constant id key :: qs) (.constant id key :: rs)
  | computed (id) {p q qs rs} (key : Plan.Wraps free p q)
      (others : Plan.WrapsQualifiers free qs rs) :
      Plan.WrapsQualifiers free (.computed id p :: qs) (.computed id q :: rs)

end

namespace Plan

variable {free : Plan → Prop} {p q : Plan}

/-! ### What planning looks at -/

theorem WrapsAll.length_eq {ps qs : List Plan} (wraps : WrapsAll free ps qs) :
    ps.length = qs.length := by
  match wraps with
  | .nil => rfl
  | .cons _ others => rw [List.length_cons, List.length_cons, others.length_eq]

theorem WrapsKeyed.length_eq {ps qs : List (Plan × Plan)} (wraps : WrapsKeyed free ps qs) :
    ps.length = qs.length := by
  match wraps with
  | .nil => rfl
  | .cons _ _ others => rw [List.length_cons, List.length_cons, others.length_eq]

theorem Wraps.id_eq {p q : Plan} (wraps : Wraps free p q) : p.id = q.id := by
  match wraps with
  | .exhaustive _ _ inner | .observed inner =>
    rw [Plan.id]
    exact inner.id_eq
  | .const .. | .attr .. | .both .. | .either .. | .conditional .. | .call .. | .list .. |
    .mapping .. | .object .. | .presence .. | .loop .. | .membership .. | .search .. => rfl

theorem asConst?_of_mayStopEarly (stops : p.mayStopEarly = true) : p.asConst? = none := by
  cases p <;> first | rfl | simp [mayStopEarly] at stops

theorem Wraps.asConst?_eq {p q : Plan} (wraps : Wraps free p q) : p.asConst? = q.asConst? := by
  cases p with
  | exhaustive =>
    cases wraps with
    | exhaustive _ stops inner =>
      rw [← inner.asConst?_eq, asConst?_of_mayStopEarly stops]
      rfl
  | observed =>
    cases wraps with
    | observed inner =>
      rw [asConst?]
      exact inner.asConst?_eq
  | _ =>
    cases wraps
    rfl
termination_by structural p

theorem Wraps.isConst_eq (wraps : Wraps free p q) : p.isConst = q.isConst := by
  rw [isConst, isConst, wraps.asConst?_eq]

theorem Wraps.sizeHint?_eq {p q : Plan} (wraps : Wraps free p q) : p.sizeHint? = q.sizeHint? := by
  match wraps with
  | .exhaustive _ _ inner | .observed inner =>
    rw [sizeHint?]
    exact inner.sizeHint?_eq
  | .list _ elements => rw [sizeHint?, sizeHint?, elements.length_eq]
  | .mapping _ entries => rw [sizeHint?, sizeHint?, entries.length_eq]
  | .const .. | .attr .. | .both .. | .either .. | .conditional .. | .call .. | .object .. |
    .presence .. | .loop .. | .membership .. | .search .. => rfl

theorem WrapsAll.sizeHints_eq {ps qs : List Plan} (wraps : WrapsAll free ps qs) :
    ps.map sizeHint? = qs.map sizeHint? := by
  match wraps with
  | .nil => rfl
  | .cons first others => rw [List.map_cons, List.map_cons, first.sizeHint?_eq, others.sizeHints_eq]

theorem WrapsQualifiers.labels_eq {qs rs : List Qualifier} (wraps : WrapsQualifiers free qs rs) :
    qs.map Qualifier.label = rs.map Qualifier.label := by
  match wraps with
  | .nil => rfl
  | .field _ _ _ others | .constant _ _ others =>
    rw [List.map_cons, List.map_cons, others.labels_eq]
  | .computed _ _ others =>
    rw [List.map_cons, List.map_cons, others.labels_eq]
    rfl

mutual

theorem Wraps.nodeCount_eq {p q : Plan} (wraps : Wraps free p q) : p.nodeCount = q.nodeCount := by
  match wraps with
  | .const .. | .attr .. => rfl
  | .both _ left right | .either _ left right =>
    rw [nodeCount, nodeCount, left.nodeCount_eq, right.nodeCount_eq]
  | .conditional _ guard whenTrue whenFalse =>
    rw [nodeCount, nodeCount, guard.nodeCount_eq, whenTrue.nodeCount_eq, whenFalse.nodeCount_eq]
  | .call _ _ _ parts | .list _ parts => rw [nodeCount, nodeCount, parts.nodeCounts_eq]
  | .mapping _ entries => rw [nodeCount, nodeCount, entries.nodeCounts_eq]
  | .object _ _ fields => rw [nodeCount, nodeCount, fields.nodeCounts_eq]
  | .presence _ _ _ part | .membership _ _ _ _ _ part | .search _ _ _ _ _ part =>
    rw [nodeCount, nodeCount, part.nodeCount_eq]
  | .loop _ _ _ range init condition step result =>
    rw [nodeCount, nodeCount, range.nodeCount_eq, init.nodeCount_eq, condition.nodeCount_eq,
      step.nodeCount_eq, result.nodeCount_eq]
  | .exhaustive _ _ inner | .observed inner =>
    rw [nodeCount]
    exact inner.nodeCount_eq

theorem WrapsAll.nodeCounts_eq {ps qs : List Plan} (wraps : WrapsAll free ps qs) :
    nodeCounts ps = nodeCounts qs := by
  match wraps with
  | .nil => rfl
  | .cons first others => rw [nodeCounts, nodeCounts, first.nodeCount_eq, others.nodeCounts_eq]

theorem WrapsKeyed.nodeCounts_eq {ps qs : List (Plan × Plan)} (wraps : WrapsKeyed free ps qs) :
    entryNodeCounts ps = entryNodeCounts qs := by
  match wraps with
  | .nil => rfl
  | .cons key value others =>
    rw [entryNodeCounts, entryNodeCounts, key.nodeCount_eq, value.nodeCount_eq,
      others.nodeCounts_eq]

theorem WrapsFields.nodeCounts_eq {ps qs : List (String × Plan)} (wraps : WrapsFields free ps qs) :
    fieldNodeCounts ps = fieldNodeCounts qs := by
  match wraps with
  | .nil => rfl
  | .cons _ value others =>
    rw [fieldNodeCounts, fieldNodeCounts, value.nodeCount_eq, others.nodeCounts_eq]

end

/-! ### Costs -/

/-- Plans that are observed, but nowhere evaluated exhaustively. -/
abbrev Observes : Plan → Plan → Prop := Wraps fun _ => False

mutual

theorem Wraps.cost_eq {p q : Plan} (wraps : Observes p q) : p.cost = q.cost := by
  match wraps with
  | .const .. => rfl
  | .attr _ referent =>
    rw [cost, cost]
    exact referent_cost_eq referent
  | .both _ left right | .either _ left right => rw [cost, cost, left.cost_eq, right.cost_eq]
  | .conditional _ guard whenTrue whenFalse =>
    rw [cost, cost, guard.cost_eq, whenTrue.cost_eq, whenFalse.cost_eq]
  | .call _ _ _ args => rw [cost, cost, args.costs_eq, args.sizeHints_eq]
  | .list _ elements => rw [cost, cost, elements.costs_eq]
  | .mapping _ entries => rw [cost, cost, entries.costs_eq]
  | .object _ _ fields => rw [cost, cost, fields.costs_eq]
  | .presence _ _ _ part | .membership _ _ _ _ _ part => rw [cost, cost, part.cost_eq]
  | .search _ _ _ _ _ text => rw [cost, cost, text.cost_eq, text.sizeHint?_eq]
  | .loop _ _ _ range init condition step result =>
    rw [cost, cost, range.cost_eq, range.sizeHint?_eq, init.cost_eq, condition.cost_eq,
      step.cost_eq, result.cost_eq]
  | .exhaustive freed _ _ => exact freed.elim
  | .observed inner =>
    rw [cost]
    exact inner.cost_eq

theorem WrapsAll.costs_eq {ps qs : List Plan} (wraps : WrapsAll (fun _ => False) ps qs) :
    costs ps = costs qs := by
  match wraps with
  | .nil => rfl
  | .cons first others => rw [costs, costs, first.cost_eq, others.costs_eq]

theorem WrapsKeyed.costs_eq {ps qs : List (Plan × Plan)}
    (wraps : WrapsKeyed (fun _ => False) ps qs) : entryCosts ps = entryCosts qs := by
  match wraps with
  | .nil => rfl
  | .cons key value others =>
    rw [entryCosts, entryCosts, key.cost_eq, value.cost_eq, others.costs_eq]

theorem WrapsFields.costs_eq {ps qs : List (String × Plan)}
    (wraps : WrapsFields (fun _ => False) ps qs) : fieldCosts ps = fieldCosts qs := by
  match wraps with
  | .nil => rfl
  | .cons _ value others => rw [fieldCosts, fieldCosts, value.cost_eq, others.costs_eq]

theorem referent_cost_eq {a b : Attribute} (wraps : a.Wraps (fun _ => False) b) :
    attributeCost a = attributeCost b := by
  match wraps with
  | .absolute _ _ _ qualifiers => rw [attributeCost, attributeCost, qualifiers.costs_eq]
  | .ambiguous _ _ qualifiers =>
    rw [attributeCost, attributeCost, qualifiers.costs_eq, qualifiers.labels_eq]
  | .relative _ operand qualifiers =>
    rw [attributeCost, attributeCost, operand.cost_eq, qualifiers.costs_eq]
  | .conditional _ guard whenTrue whenFalse =>
    rw [attributeCost, attributeCost, guard.cost_eq, referent_cost_eq whenTrue,
      referent_cost_eq whenFalse]

theorem WrapsQualifiers.costs_eq {qs rs : List Qualifier}
    (wraps : WrapsQualifiers (fun _ => False) qs rs) : qualifierCosts qs = qualifierCosts rs := by
  match wraps with
  | .nil => rfl
  | .field _ _ _ others | .constant _ _ others =>
    rw [qualifierCosts, qualifierCosts, others.costs_eq]
  | .computed _ key others => rw [qualifierCosts, qualifierCosts, key.cost_eq, others.costs_eq]

end

/-! ### References -/

theorem WrapsQualifiers.append {before after qs rs : List Qualifier}
    (wraps : WrapsQualifiers free before after) (more : WrapsQualifiers free qs rs) :
    WrapsQualifiers free (before ++ qs) (after ++ rs) := by
  match wraps with
  | .nil => exact more
  | .field id name access others => exact .field id name access (others.append more)
  | .constant id key others => exact .constant id key (others.append more)
  | .computed id key others => exact .computed id key (others.append more)

end Plan

namespace Attribute

theorem Wraps.qualify {free : Plan → Prop} {a b : Attribute} (wraps : a.Wraps free b)
    {x y : Qualifier} (more : Plan.WrapsQualifiers free [x] [y]) :
    (a.qualify x).Wraps free (b.qualify y) := by
  match wraps with
  | .absolute id isLocal names qualifiers =>
    exact .absolute id isLocal names (qualifiers.append more)
  | .ambiguous id names qualifiers => exact .ambiguous id names (qualifiers.append more)
  | .relative id operand qualifiers => exact .relative id operand (qualifiers.append more)
  | .conditional id guard whenTrue whenFalse =>
    exact .conditional id guard (whenTrue.qualify more) (whenFalse.qualify more)

end Attribute

namespace Plan

variable {free : Plan → Prop} {p q : Plan}

theorem Wraps.toAttribute {p q : Plan} (wraps : Wraps free p q) :
    p.toAttribute.Wraps free q.toAttribute := by
  cases p with
  | exhaustive =>
    cases wraps with
    | exhaustive _ _ inner =>
      rw [Plan.toAttribute]
      exact inner.toAttribute
  | observed =>
    cases wraps with
    | observed inner =>
      rw [Plan.toAttribute]
      exact inner.toAttribute
  | attr =>
    cases wraps with
    | attr _ referent => exact referent
  | conditional id =>
    cases wraps with
    | conditional _ guard whenTrue whenFalse =>
      exact .conditional id guard whenTrue.toAttribute whenFalse.toAttribute
  | _ =>
    -- any other plan is the operand of a relative reference
    have operand := wraps
    cases wraps
    exact .relative _ operand .nil
termination_by structural p

theorem Wraps.qualify (id : Int) (operand : Wraps free p q) {x y : Qualifier}
    (more : WrapsQualifiers free [x] [y]) : Wraps free (p.qualify id x) (q.qualify id y) :=
  .attr id (operand.toAttribute.qualify more)

theorem Wraps.indexed (id : Int) {k l : Plan} (operand : Wraps free p q) (key : Wraps free k l) :
    Wraps free (p.indexed id k) (q.indexed id l) := by
  unfold Plan.indexed
  rw [key.asConst?_eq]
  cases l.asConst? with
  | some v => exact operand.qualify id (.constant id v .nil)
  | none => exact operand.qualify id (.computed id key .nil)

variable [HostObjects]

/-! ### Values -/

/-- A plan that has its value also when everything in it is evaluated. -/
def Indifferent (provider : Provider) (p : Plan) : Prop :=
  ∀ scope, (eval provider p true scope).value = (eval provider p false scope).value

theorem exhaustive_same {provider : Provider} (indifferent : p.Indifferent provider) :
    Same provider (.exhaustive p) p where
  value scope := indifferent scope
  selected := Attribute.same_refl p.toAttribute

theorem observed_same (provider : Provider) (p : Plan) : Same provider (.observed p) p where
  value _ := rfl
  selected := Attribute.same_refl p.toAttribute

section Values

variable {provider : Provider}

mutual

/-- A plan with wrappers has the values of the plan without, if what is wrapped for exhaustive
evaluation is indifferent to it. -/
theorem Wraps.same (indifferent : ∀ p, free p → p.Indifferent provider) {p q : Plan}
    (wraps : Wraps free p q) : Same provider p q := by
  match wraps with
  | .const id v => exact .refl _
  | .attr id referent => exact .of_attribute (referent_same indifferent referent)
  | .both id left right => exact both_same id (left.same indifferent) (right.same indifferent)
  | .either id left right => exact either_same id (left.same indifferent) (right.same indifferent)
  | .conditional id guard whenTrue whenFalse =>
    exact conditional_same id (guard.same indifferent) (whenTrue.same indifferent)
      (whenFalse.same indifferent)
  | .call id function overloads args =>
    exact call_same id function overloads (args.same indifferent)
  | .list id elements => exact list_same id (elements.same indifferent)
  | .mapping id entries => exact mapping_same id (entries.same indifferent)
  | .object id typeName fields => exact object_same id typeName (fields.same indifferent)
  | .presence id field access operand =>
    exact presence_same id field access (operand.same indifferent)
  | .loop id iterVar accuVar range init condition step result =>
    exact .of_value rfl rfl (loop_value (range.same indifferent) (init.same indifferent)
      (condition.same indifferent) (step.same indifferent) (result.same indifferent)
      (.inl range.id_eq))
  | .membership id items keys function overloads element =>
    exact membership_same id items keys function overloads (element.same indifferent)
  | .search id source pattern function overloads text =>
    exact search_same id source pattern function overloads (text.same indifferent)
  | .exhaustive freed _ inner =>
    exact (exhaustive_same (indifferent _ freed)).trans (inner.same indifferent)
  | .observed inner => exact (observed_same provider _).trans (inner.same indifferent)

theorem WrapsAll.same (indifferent : ∀ p, free p → p.Indifferent provider) {ps qs : List Plan}
    (wraps : WrapsAll free ps qs) : List.Forall₂ (Same provider) ps qs := by
  match wraps with
  | .nil => exact .nil
  | .cons first others => exact .cons (first.same indifferent) (others.same indifferent)

theorem WrapsKeyed.same (indifferent : ∀ p, free p → p.Indifferent provider)
    {ps qs : List (Plan × Plan)} (wraps : WrapsKeyed free ps qs) :
    List.Forall₂ (fun p q => Same provider p.1 q.1 ∧ Same provider p.2 q.2) ps qs := by
  match wraps with
  | .nil => exact .nil
  | .cons key value others =>
    exact .cons ⟨key.same indifferent, value.same indifferent⟩ (others.same indifferent)

theorem WrapsFields.same (indifferent : ∀ p, free p → p.Indifferent provider)
    {ps qs : List (String × Plan)} (wraps : WrapsFields free ps qs) :
    List.Forall₂ (fun p q => p.1 = q.1 ∧ Same provider p.2 q.2) ps qs := by
  match wraps with
  | .nil => exact .nil
  | .cons name value others =>
    exact .cons ⟨rfl, value.same indifferent⟩ (others.same indifferent)

theorem referent_same (indifferent : ∀ p, free p → p.Indifferent provider) {a b : Attribute}
    (wraps : a.Wraps free b) : a.Same provider b := by
  match wraps with
  | .absolute id isLocal names qualifiers =>
    exact Attribute.absolute_same id isLocal names (qualifiers.same indifferent)
  | .ambiguous id names qualifiers =>
    exact Attribute.ambiguous_same id names (qualifiers.same indifferent)
  | .relative id operand qualifiers =>
    exact Attribute.relative_same (operand.same indifferent).value (qualifiers.same indifferent)
  | .conditional id guard whenTrue whenFalse =>
    exact Attribute.conditional_same id (guard.same indifferent).value
      (referent_same indifferent whenTrue) (referent_same indifferent whenFalse)

theorem WrapsQualifiers.same (indifferent : ∀ p, free p → p.Indifferent provider)
    {qs rs : List Qualifier} (wraps : WrapsQualifiers free qs rs) :
    List.Forall₂ Step.Same (steps provider qs) (steps provider rs) := by
  match wraps with
  | .nil => exact .nil
  | .field id name access others => exact .cons (.refl _) (others.same indifferent)
  | .constant id key others => exact .cons (.refl _) (others.same indifferent)
  | .computed id key others =>
    have value := (key.same indifferent).value
    exact .cons ⟨rfl, value, fun scope v => by simp [value]⟩ (others.same indifferent)

end

end Values

end Plan

end ExprEngine
