import ExprEngine.Proofs.Recording.Values

/-!
# Complete recordings

With state tracking, a node that is evaluated is recorded, unless a selection takes it in. What is
taken in loses its wrapper, and is evaluated without a record if it is no reference itself. Loops
need no exception: the nodes in them are recorded each time around.
-/

namespace ExprEngine

namespace Plan

variable [HostObjects]

theorem reached_mem (provider : Provider) (p : Plan) (everything : Bool) (scope : Scope) :
    .reached p.id ∈ (eval provider p everything scope).log := by
  cases p with
  | exhaustive inner => exact reached_mem provider inner true scope
  | observed inner => exact List.mem_append_left _ (reached_mem provider inner false scope)
  | _ => exact List.mem_cons_self

end Plan

namespace Watch

/-- Nodes that are reached are recorded or exempt, and nodes that are recorded were reached. -/
structure Accounts (exempt : Int → Prop) (kept : Int → Prop) (log : List Event) : Prop where
  recorded : ∀ id, .reached id ∈ log → exempt id ∨ ∃ v, .recorded id v ∈ log
  reached : ∀ id v, .recorded id v ∈ log → kept id ∧ .reached id ∈ log

variable {exempt other kept : Int → Prop} {log first rest : List Event}

theorem Accounts.imp (accounts : Accounts exempt kept log) (weaker : ∀ id, exempt id → other id) :
    Accounts other kept log :=
  ⟨fun id reached => (accounts.recorded id reached).imp_left (weaker id), accounts.reached⟩

theorem Accounts.append (before : Accounts exempt kept first)
    (after : Accounts exempt kept rest) : Accounts exempt kept (first ++ rest) where
  recorded id reached := by
    rcases List.mem_append.mp reached with reached | reached
    · exact (before.recorded id reached).imp_right fun ⟨v, recorded⟩ =>
        ⟨v, List.mem_append_left rest recorded⟩
    · exact (after.recorded id reached).imp_right fun ⟨v, recorded⟩ =>
        ⟨v, List.mem_append_right first recorded⟩
  reached id v recorded := by
    rcases List.mem_append.mp recorded with recorded | recorded
    · exact (before.reached id v recorded).imp_right (List.mem_append_left rest)
    · exact (after.reached id v recorded).imp_right (List.mem_append_right first)

theorem accounts_onNodes : OnNodes (Accounts exempt kept) where
  append := Accounts.append
  others others :=
    { recorded := fun _ reached => by cases others _ reached
      reached := fun _ _ recorded => by cases others _ recorded }

variable [HostObjects]

theorem Accounts.record {provider : Provider} {q : Plan} {scope : Scope}
    (accounts : Accounts (fun id => id = q.id ∨ exempt id) kept
      (q.eval provider false scope).log) (isKept : kept q.id) (v : Value) :
    Accounts exempt kept ((q.eval provider false scope).log ++ [.recorded q.id v]) where
  recorded id reached := by
    rcases List.mem_append.mp reached with reached | reached
    · rcases accounts.recorded id reached with (rfl | exempted) | ⟨w, recorded⟩
      · exact .inr ⟨v, by simp⟩
      · exact .inl exempted
      · exact .inr ⟨w, List.mem_append_left _ recorded⟩
    · cases List.mem_singleton.mp reached
  reached id w recorded := by
    rcases List.mem_append.mp recorded with recorded | recorded
    · exact (accounts.reached id w recorded).imp_right (List.mem_append_left _)
    · obtain ⟨rfl, rfl⟩ := Event.recorded.inj (List.mem_singleton.mp recorded)
      exact ⟨isKept, List.mem_append_left _ (Plan.reached_mem provider q false scope)⟩

def nodes (exempt kept : Int → Prop) : Watch where
  scopes scope := scope.isRecording = true
  logs := Accounts exempt kept
  pending id := Accounts (fun other => other = id ∨ exempt other) kept
  loose := exempt
  seen q := kept q.id
  loops := True

theorem nodes_sound (provider : Provider) (exempt kept : Int → Prop) :
    (nodes exempt kept).Sound provider where
  toAccumulates := accounts_onNodes.accumulates
  dispatched := accounts_onNodes.dispatched
  constructed _ _ _ := accounts_onNodes.single rfl
  begins id :=
    { recorded := fun other reached => by
        obtain rfl := Event.reached.inj (List.mem_singleton.mp reached)
        exact .inl (.inl rfl)
      reached := fun other v recorded => by cases List.mem_singleton.mp recorded }
  continues pending after := Accounts.append pending (Accounts.imp after fun _ => .inr)
  weakens accounts := Accounts.imp accounts fun _ => .inr
  settles := by
    intro id log exempted pending
    refine Accounts.imp pending fun other waits => ?_
    rcases waits with rfl | waits
    · exact exempted
    · exact waits
  records := by
    intro q scope isKept records pending
    have records : scope.isRecording = true := records
    rw [Scope.record, records]
    exact Accounts.record pending isKept _
  frames _ _ _ _ records := records

end Watch

namespace Planner

variable [HostObjects]

open Planning

def takenIds (c : Planner) (e : Expr) : List Int := (c.takenIn e).map Expr.id

/-- The plan of an expression with distinct ids accounts for all nodes that are not taken in. -/
theorem nodes_watched {c : Planner} (tracks : c.Tracks) {e : Expr} (distinct : e.nodeIds.Nodup)
    {p : Plan} (planned : outcome (c.planExpr e []) = .ok p) :
    p.Watched (.nodes (· ∈ c.takenIds e) (· ∉ c.takenIds e)) false := by
  refine placed_of_outcome tracks false (fun x member => ?_) planned
  refine ⟨fun kept q _ named => ?_, fun taken => ?_, fun _ => trivial⟩
  · change q.id ∉ c.takenIds e
    rw [named]
    exact c.taken_unique distinct member kept
  · exact List.mem_map_of_mem (List.mem_map_of_mem (List.mem_filter.mpr ⟨member, taken⟩))

end Planner

namespace Environment

open Planning

section

variable [HostObjects]

variable {env : Environment} {checked : CheckedExpr} {program : Program}

/-- The nodes with recorded values are the nodes that were evaluated and that no selection takes
in. -/
theorem recorded_iff (distinct : checked.expr.nodeIds.Nodup)
    (trackState : env.options.trackState = true) (lazy : env.options.exhaustive = false)
    (planned : outcome (env.plan checked) = .ok program) (scope : Scope) (id : Int) :
    id ∈ (program.evalTracked scope).value.2.ids ↔
      .reached id ∈ (program.evalTracked scope).log ∧
        id ∉ (env.planner checked).takenIds checked.expr := by
  obtain ⟨rootPlanned, provided⟩ := plan_ok planned
  have tracks := tracks_of checked trackState lazy
  have watched := Planner.nodes_watched tracks distinct rootPlanned
  have records : (Scope.recording scope).isRecording = true := rfl
  have accounts := Plan.eval_watched (Watch.nodes_sound program.provider _ _) watched false records
  have ids : id ∈ (program.evalTracked scope).value.2.ids ↔
      ∃ v, .recorded id v ∈ (program.evalTracked scope).log :=
    Recording.mem_ids_follow _ id
  rw [ids]
  constructor
  · rintro ⟨v, recorded⟩
    exact (accounts.reached id v recorded).symm
  · rintro ⟨reached, kept⟩
    exact (accounts.recorded id reached).resolve_left kept

end

attribute [local instance] HostObjects.silent

def trackingEnvironment : Environment := { options := { trackState := true } }

def selectedEntry : CheckedExpr :=
  .unchecked (.select 5
    (.mapping 4 [.keyed 3 (.literal 1 (.string "f")) (.literal 2 (.int 1))]) "f")

/-- All nodes that are evaluated are recorded, but for the map, which is taken in. -/
theorem selectedEntry_recorded :
    ∃ program, outcome (trackingEnvironment.plan selectedEntry) = .ok program ∧
      ∀ scope id, id ∈ (program.evalTracked scope).value.2.ids ↔
        .reached id ∈ (program.evalTracked scope).log ∧ id ≠ 4 := by
  refine ⟨_, rfl, fun scope id => ?_⟩
  have recorded :=
    @recorded_iff _ trackingEnvironment selectedEntry _ (by decide) rfl rfl rfl scope id
  have taken : (trackingEnvironment.planner selectedEntry).takenIds selectedEntry.expr = [4] := rfl
  rwa [taken, List.mem_singleton] at recorded

/-- The map of the selection is evaluated, and has no recorded value. -/
theorem selected_map_unrecorded :
    selectedEntry.expr.nodeIds.Nodup ∧
      ∃ program entries, outcome (trackingEnvironment.plan selectedEntry) = .ok program ∧
        .mapping 4 entries ∈ selectedEntry.expr.nodes ∧
        .reached 4 ∈ (program.evalTracked .empty).log ∧
        4 ∉ (program.evalTracked .empty).value.2.ids := by
  refine ⟨by decide, _, [.keyed 3 (.literal 1 (.string "f")) (.literal 2 (.int 1))], rfl,
    ?_, ?_, ?_⟩
  · exact List.mem_cons_of_mem _ List.mem_cons_self
  · exact List.mem_cons_of_mem _ List.mem_cons_self
  · decide

end Environment

end ExprEngine
