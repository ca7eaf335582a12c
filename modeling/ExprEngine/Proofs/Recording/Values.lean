import ExprEngine.Proofs.Planning.Tracking
import ExprEngine.Proofs.Recording.Entries
import ExprEngine.Proofs.Recording.Planned

/-!
# Recorded values

Without loops there is one scope, and every record of a node is the value that its sub-expression
has there by itself. The root is recorded last, with the value that is returned.
-/

namespace ExprEngine

section

variable [HostObjects]

/-! ### Watching values -/

def Watch.Faithful (provider : Provider) (scope : Scope) (seen : Plan → Prop) (id : Int)
    (v : Value) : Prop :=
  ∃ q, seen q ∧ q.id = id ∧ (q.eval provider false scope).value = v

/-- Every record is faithful to the value in one scope. -/
def Watch.values (provider : Provider) (scope : Scope) (seen : Plan → Prop) : Watch where
  scopes := (· = scope)
  logs log := ∀ id v, .recorded id v ∈ log → Faithful provider scope seen id v
  pending _ log := ∀ id v, .recorded id v ∈ log → Faithful provider scope seen id v
  loose _ := True
  seen := seen
  loops := False

namespace Watch

variable {provider : Provider} {scope : Scope} {seen : Plan → Prop}

theorem values_onNodes : OnNodes (values provider scope seen).logs where
  append := by
    intro first rest before after id v recorded
    rcases List.mem_append.mp recorded with recorded | recorded
    · exact before id v recorded
    · exact after id v recorded
  others := by
    intro log others id v recorded
    cases others _ recorded

theorem values_sound (provider : Provider) (scope : Scope) (seen : Plan → Prop) :
    (values provider scope seen).Sound provider where
  toAccumulates := values_onNodes.accumulates
  dispatched := values_onNodes.dispatched
  constructed _ _ _ := values_onNodes.single rfl
  begins id := by
    intro other v recorded
    cases List.mem_singleton.mp recorded
  continues := values_onNodes.append
  weakens := id
  settles _ := id
  records := by
    intro q s isSeen same logs
    subst same
    refine values_onNodes.append logs ?_
    intro id v recorded
    unfold Scope.record at recorded
    split at recorded
    · obtain ⟨rfl, rfl⟩ := Event.recorded.inj (List.mem_singleton.mp recorded)
      exact ⟨q, isSeen, rfl, rfl⟩
    · cases recorded
  frames := False.elim

end Watch

/-! ### Parts of an expression by themselves -/

namespace CheckedExpr

/-- The part of an expression with the annotations of the whole. -/
def part (checked : CheckedExpr) (e : Expr) : CheckedExpr := { checked with expr := e }

end CheckedExpr

namespace Planner

open Planning

variable {c d : Planner}

theorem eq_of_pairs {es : List Expr} {locals : List String} {ps qs : List Plan}
    (pairs : PairAll c d (fun _ _ p q => p = q) es locals ps qs) : ps = qs := by
  have same := pairs.forall₂
  rwa [List.forall₂_eq_eq_eq] at same

omit [HostObjects] in
theorem eq_of_parts {α β : Type} {as bs : List (α × β)}
    (same : List.Forall₂ (fun a b => a.1 = b.1 ∧ a.2 = b.2) as bs) : as = bs := by
  rw [← List.forall₂_eq_eq_eq]
  exact same.imp fun _ _ parts => Prod.ext parts.1 parts.2

/-- Which expression is checked as a whole plays no part in planning. -/
theorem part_simulates (c : Planner) (e : Expr) :
    Simulates { c with checked := c.checked.part e } c fun _ _ p q => p = q where
  resolves _ := rfl
  finds _ := rfl
  names _ _ := rfl
  literal _ _ _ := rfl
  ident _ _ _ := rfl
  resolved _ _ _ _ _ := rfl
  select _ _ _ _ _ _ _ pair := by
    rw [pair.related]
    rfl
  presence _ _ _ _ _ _ pair := by
    rw [pair.related]
    rfl
  both _ _ _ _ _ _ _ _ left right := by
    rw [left.related, right.related]
    rfl
  either _ _ _ _ _ _ _ _ left right := by
    rw [left.related, right.related]
    rfl
  index _ _ _ _ _ _ _ _ operand key := by
    rw [operand.related, key.related]
    rfl
  conditional _ _ _ _ _ _ _ _ _ _ _ guard whenTrue whenFalse := by
    rw [guard.related, whenTrue.related, whenFalse.related]
    rfl
  call _ _ _ _ _ _ _ pairs := by
    rw [eq_of_pairs pairs]
    rfl
  member _ _ _ _ _ _ _ _ _ _ target pairs := by
    rw [target.related, eq_of_pairs pairs]
    rfl
  list _ _ _ _ _ pairs := by
    rw [eq_of_pairs pairs]
    rfl
  mapping _ _ _ _ _ pairs := by
    rw [eq_of_parts pairs.forall₂]
    rfl
  object _ _ _ _ _ _ _ _ pairs := by
    rw [eq_of_parts pairs.forall₂]
    rfl
  loop _ _ _ _ _ _ _ _ _ _ _ _ _ _ _ _ _ _ _ range init condition step result := by
    rw [range.related, init.related, condition.related, step.related, result.related]
    rfl

theorem outcome_part (c : Planner) (whole e : Expr) (locals : List String) :
    outcome (({ c with checked := c.checked.part whole } : Planner).planExpr e locals) =
      outcome (c.planExpr e locals) := by
  have pairs := agree_of_simulates (part_simulates c whole) e locals
  exact (pairs.imp fun _ _ pair => pair.related).eq

/-! ### Expressions without loops -/

omit [HostObjects] in
mutual

theorem locals_of_place (c : Planner) {e : Expr} {locals : List String} {taken : Bool}
    (single : ∀ n ∈ e.nodes, n.isLoop = false) :
    ∀ x ∈ c.places e locals taken, x.locals = locals := by
  match e with
  | .literal .. | .ident .. =>
    intro x member
    rw [List.mem_singleton.mp member]
  | .select _ operand _ | .presence _ operand _ =>
    have inside := (List.forall_mem_cons.mp single).2
    exact List.forall_mem_cons.mpr ⟨rfl, locals_of_place c inside⟩
  | .call _ _ parts | .list _ parts =>
    have inside := (List.forall_mem_cons.mp single).2
    exact List.forall_mem_cons.mpr ⟨rfl, locals_of_placeAll c inside⟩
  | .member _ target _ args =>
    obtain ⟨targeted, inside⟩ := List.forall_mem_append.mp (List.forall_mem_cons.mp single).2
    exact List.forall_mem_cons.mpr
      ⟨rfl, List.forall_mem_append.mpr ⟨locals_of_place c targeted, locals_of_placeAll c inside⟩⟩
  | .mapping _ entries | .object _ _ entries =>
    have inside := (List.forall_mem_cons.mp single).2
    exact List.forall_mem_cons.mpr ⟨rfl, locals_of_placeIn c inside⟩
  | .loop .. =>
    have here := (List.forall_mem_cons.mp single).1
    cases here

theorem locals_of_placeAll (c : Planner) {es : List Expr} {locals : List String}
    {flags : List Bool} (single : ∀ n ∈ Expr.nodesAll es, n.isLoop = false) :
    ∀ x ∈ c.placesAll es locals flags, x.locals = locals := by
  match es with
  | [] => exact fun _ member => nomatch member
  | e :: rest =>
    obtain ⟨first, others⟩ := List.forall_mem_append.mp single
    exact List.forall_mem_append.mpr ⟨locals_of_place c first, locals_of_placeAll c others⟩

theorem locals_of_placeIn (c : Planner) {entries : List Entry} {locals : List String}
    (single : ∀ n ∈ Expr.nodesIn entries, n.isLoop = false) :
    ∀ x ∈ c.placesIn entries locals, x.locals = locals := by
  match entries with
  | [] => exact fun _ member => nomatch member
  | .field _ _ value :: rest =>
    obtain ⟨valued, others⟩ := List.forall_mem_append.mp single
    exact List.forall_mem_append.mpr ⟨locals_of_place c valued, locals_of_placeIn c others⟩
  | .keyed _ key value :: rest =>
    obtain ⟨keyed, inside⟩ := List.forall_mem_append.mp single
    obtain ⟨valued, others⟩ := List.forall_mem_append.mp inside
    exact List.forall_mem_append.mpr ⟨locals_of_place c keyed,
      List.forall_mem_append.mpr ⟨locals_of_place c valued, locals_of_placeIn c others⟩⟩

end

def PlansNode (c : Planner) (e : Expr) (q : Plan) : Prop :=
  ∃ n ∈ e.nodes, n.id = q.id ∧ outcome (c.planExpr n []) = .ok (.observed q)

/-- Without loops, what is recorded of an expression is the values of its nodes. -/
theorem values_watched {c : Planner} (tracks : c.Tracks) {e : Expr}
    (single : ∀ n ∈ e.nodes, n.isLoop = false) {p : Plan}
    (planned : outcome (c.planExpr e []) = .ok p) (provider : Provider) (scope : Scope) :
    p.Watched (.values provider scope (c.PlansNode e)) false := by
  refine placed_of_outcome tracks false (fun x member => ?_) planned
  have node := c.node_mem_of_place member
  have locals := locals_of_place c single x member
  refine ⟨fun _ q nodePlanned named => ?_, fun _ => trivial, fun isLoop => ?_⟩
  · rw [locals] at nodePlanned
    exact ⟨x.node, node, named.symm, nodePlanned⟩
  · rw [single x.node node] at isLoop
    cases isLoop

end Planner

namespace Plan

theorem log_observed (provider : Provider) (q : Plan) (everything : Bool) {scope : Scope}
    (records : scope.isRecording = true) :
    (eval provider (observed q) everything scope).log =
      (eval provider q false scope).log ++
        [.recorded q.id (eval provider q false scope).value] := by
  simp [eval, Scope.record, records]

end Plan

end

namespace Environment

open Planning

section

variable [HostObjects]

variable {env : Environment} {checked : CheckedExpr} {program : Program}

/-- A part is planned by itself as it is planned in the whole, if no loops are around it. -/
theorem plan_part {n : Expr} {p : Plan}
    (planned : outcome ((env.planner checked).planExpr n []) = .ok p) :
    outcome (env.plan (checked.part n)) = .ok ⟨p, env.provider⟩ := by
  have same : outcome ((env.planner (checked.part n)).planExpr n []) = .ok p :=
    ((env.planner checked).outcome_part n n []).trans planned
  rw [plan, Planner.plan, outcome_bind]
  change (outcome ((env.planner (checked.part n)).planExpr n [])).bind _ = _
  rw [same]
  rfl

theorem tracks_of (checked : CheckedExpr) (trackState : env.options.trackState = true)
    (lazy : env.options.exhaustive = false) : (env.planner checked).Tracks :=
  ⟨trackState, lazy⟩

/-- Every recorded node is one of the expression and has the value that its sub-expression has by
itself. The root has the value that is returned. -/
theorem recorded_values (single : ∀ n ∈ checked.expr.nodes, n.isLoop = false)
    (distinct : checked.expr.nodeIds.Nodup) (trackState : env.options.trackState = true)
    (lazy : env.options.exhaustive = false) (planned : outcome (env.plan checked) = .ok program)
    (scope : Scope) :
    let (value, recording) := (program.evalTracked scope).value
    (∀ id ∈ recording.ids, id ∈ checked.expr.nodeIds) ∧
      (∀ n ∈ checked.expr.nodes, n.id ∈ recording.ids →
        ∃ part, outcome (env.plan (checked.part n)) = .ok part ∧
          recording.get? n.id = some (part.eval scope).value) ∧
      recording.get? program.root.id = some value := by
  obtain ⟨rootPlanned, provided⟩ := plan_ok planned
  have provided : program.provider = env.provider := provided
  have tracks := tracks_of checked trackState lazy
  have faithful := Plan.eval_watched (Watch.values_sound env.provider (.recording scope) _)
    (Planner.values_watched tracks single rootPlanned env.provider (.recording scope)) false rfl
  have recorded : (program.evalTracked scope).value =
      ((program.root.eval env.provider false (.recording scope)).value,
        ({} : Recording).follow (program.root.eval env.provider false (.recording scope)).log) := by
    rw [← provided]
    rfl
  rw [recorded]
  refine ⟨fun id known => ?_, fun n node known => ?_, ?_⟩
  · obtain ⟨v, member⟩ := (Recording.mem_ids_follow _ id).mp known
    obtain ⟨q, ⟨n, node, named, -⟩, same, -⟩ := faithful id v member
    rw [← Expr.map_id_nodes, ← same, ← named]
    exact List.mem_map_of_mem node
  · obtain ⟨v, found⟩ := (Recording.mem_ids_iff _ n.id).mp known
    rcases Recording.get?_follow_cases {} found with before | member
    · cases before
    · obtain ⟨q, ⟨m, other, named, nodePlanned⟩, same, value⟩ := faithful n.id v member
      obtain rfl := Expr.node_unique distinct other node (named.trans same)
      refine ⟨_, plan_part nodePlanned, ?_⟩
      rw [found, ← value]
      exact congrArg some (Plan.value_stable env.provider q false (Scope.recording_same scope))
  · cases root : program.root with
    | observed q =>
      have records : (Scope.recording scope).isRecording = true := rfl
      simp only [Plan.log_observed _ q false records]
      exact Recording.get?_follow_last {} _ q.id _
    | _ =>
      have seen := Planner.isObserved_of_planned
        (Planner.planned_of_outcome _ _ _ rootPlanned) tracks.observes
      rw [root] at seen
      cases seen

end

attribute [local instance] HostObjects.silent

def settledChoice : CheckedExpr :=
  .unchecked (.call 5 Operator.conditional
    [.literal 1 (.bool true), .select 3 (.ident 2 "x") "f", .literal 4 .null])

/-- A conditional that folds to a branch leaves the branch as the root. -/
theorem recorded_values_settledChoice :
    let env : Environment := { options := { optimize := true, trackState := true } }
    ∃ program, outcome (env.plan settledChoice) = .ok program ∧ program.root.id = 3 ∧
      ∀ scope, (program.evalTracked scope).value.2.get? 3 =
        some (program.evalTracked scope).value.1 := by
  intro env
  refine ⟨_, rfl, rfl, fun scope => ?_⟩
  exact (@recorded_values _ env settledChoice _ (by decide) (by decide) rfl rfl rfl scope).2.2

end Environment

end ExprEngine
