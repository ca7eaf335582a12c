import ExprEngine.Proofs.Evaluation.Steps

/-!
# Logs of evaluations

The log of an evaluation is the logs of its parts, one after the other. A condition that
accumulates can be shown part by part: how names are looked up and how loops go on adds nothing
to a log but plain events.
-/

namespace ExprEngine

/-- Whether the event tells of a look-up, and of no node and no call. -/
def Event.isPlain : Event → Bool
  | qualified _ | tested _ | lookedUp _ | searched _ | demanded .. => true
  | reached _ | invoked .. | received .. | constructed .. | recorded .. | panicked _ => false

def Event.ofCall : Event → Bool
  | invoked .. | received .. | panicked _ => true
  | _ => false

def Event.ofNode : Event → Bool
  | reached _ | recorded .. => true
  | _ => false

theorem Event.ofNode_of_isPlain {e : Event} (plain : e.isPlain = true) : e.ofNode = false := by
  cases e <;> first | rfl | cases plain

theorem Event.ofNode_of_ofCall {e : Event} (call : e.ofCall = true) : e.ofNode = false := by
  cases e <;> first | rfl | cases call

/-! ### Calls -/

theorem Overload.invoke_ofCall (o : Overload) (args : List Value) :
    ∀ e ∈ (o.invoke args).log, e.ofCall = true := by
  intro e member
  unfold invoke at member
  split at member
  · obtain rfl := List.mem_singleton.mp member
    rfl
  · cases member

theorem Run.attempt_ofCall (x : Except Panic Value) : ∀ e ∈ (attempt x).log, e.ofCall = true := by
  intro e member
  cases x with
  | ok v => cases member
  | error p =>
    obtain rfl := List.mem_singleton.mp member
    rfl

section

variable [HostObjects]

theorem receiveCall_ofCall (function : String) (args : List Value) :
    ∀ e ∈ (receiveCall function args).log, e.ofCall = true := by
  intro e member
  unfold receiveCall at member
  split at member
  · split at member
    · rcases List.mem_cons.mp member with rfl | answered
      · rfl
      · exact Run.attempt_ofCall _ e answered
    · cases member
  · cases member

theorem dispatch_ofCall (function : String) (candidates : List Overload) (args : List Value) :
    ∀ e ∈ (dispatch function candidates args).log, e.ofCall = true := by
  intro e member
  unfold dispatch at member
  split at member
  · split at member
    · exact Overload.invoke_ofCall _ _ e member
    · split at member
      · cases member
      · exact Overload.invoke_ofCall _ _ e member
  · split at member
    · cases member
    · exact receiveCall_ofCall function args e member

end

structure Accumulates (logs : List Event → Prop) : Prop where
  nil : logs []
  append : ∀ {first rest}, logs first → logs rest → logs (first ++ rest)
  plain : ∀ e : Event, e.isPlain = true → logs [e]

structure Step.Logged (logs : List Event → Prop) (scope : Scope) (s : Step) : Prop where
  key : logs (s.key scope).log
  apply : ∀ v, logs (s.apply scope v).log

namespace Accumulates

variable {logs : List Event → Prop} (acc : Accumulates logs)

include acc

variable {α β : Type}

theorem pure (a : α) : logs (Pure.pure a : Run α).log := acc.nil

theorem bind {r : Run α} {f : α → Run β} (first : logs r.log) (next : logs (f r.value).log) :
    logs (r >>= f).log := acc.append first next

omit acc in
theorem map {r : Run α} (f : α → β) (holds : logs r.log) : logs (f <$> r).log := by
  rw [Run.log_map]
  exact holds

/-! ### Names -/

theorem resolve (s : Scope) (name : String) : logs (s.resolve name).log := by
  induction s with
  | empty => exact acc.pure _
  | function f => exact acc.pure _
  | table t =>
    rw [Scope.resolve, Table.resolve]
    split
    · next b _ =>
      refine map some ?_
      cases b with
      | value v => exact acc.pure v
      | onDemand l => exact acc.bind (acc.plain _ rfl) (acc.pure _)
      | data d => exact acc.pure _
    · exact acc.pure _
  | layered parent child above below =>
    rw [Scope.resolve]
    refine acc.bind below ?_
    split
    · exact acc.pure _
    · exact above
  | frame parent n v above =>
    rw [Scope.resolve]
    split
    · exact acc.pure _
    · exact above
  | marked inner ps within => exact within
  | recording inner within => exact within

variable {scope : Scope} {steps : List Step}

theorem walk (applied : ∀ s ∈ steps, ∀ v, logs (s.apply scope v).log) (v : Value) :
    logs (Step.walk scope steps v).log := by
  induction steps generalizing v with
  | nil => exact acc.pure v
  | cons s rest ih =>
    rw [Step.walk]
    split
    · exact acc.pure v
    · have first := applied s List.mem_cons_self v
      have others := ih (fun t member => applied t (List.mem_cons_of_mem s member))
        ((s.apply scope v).value.withExprId s.id)
      exact acc.bind first (acc.bind (acc.plain _ rfl) others)

theorem keys (keyed : ∀ s ∈ steps, logs (s.key scope).log) : logs (Step.keys scope steps).log := by
  induction steps with
  | nil => exact acc.pure _
  | cons s rest ih =>
    rw [Step.keys]
    refine acc.bind (keyed s List.mem_cons_self) ?_
    split
    · exact acc.pure _
    · refine acc.bind (ih fun t member => keyed t (List.mem_cons_of_mem s member)) ?_
      split <;> exact acc.pure _

theorem firstSome {f : α → Run (Option Value)} {as : List α} (each : ∀ a ∈ as, logs (f a).log) :
    logs (Variable.firstSome f as).log := by
  induction as with
  | nil => exact acc.pure _
  | cons a rest ih =>
    rw [Variable.firstSome]
    refine acc.bind (each a List.mem_cons_self) ?_
    split
    · exact acc.pure _
    · exact ih fun b member => each b (List.mem_cons_of_mem a member)

variable {x : Variable}

theorem unknown? (keyed : ∀ s ∈ x.steps, logs (s.key scope).log) (name : String) :
    logs (x.unknown? scope name).log := by
  unfold Variable.unknown?
  split
  · exact acc.pure _
  · split
    · exact acc.pure _
    · refine acc.bind (acc.keys keyed) ?_
      split <;> exact acc.pure _

theorem marked? (keyed : ∀ s ∈ x.steps, logs (s.key scope).log) (name : String) :
    logs (x.marked? scope name).log := by
  rw [Variable.marked?]
  split
  · exact acc.pure _
  · exact acc.unknown? keyed name

theorem found? (applied : ∀ s ∈ x.steps, ∀ v, logs (s.apply scope v).log) (provider : Provider)
    (name : String) : logs (x.found? provider scope name).log := by
  refine acc.bind (acc.resolve scope name) ?_
  split
  · exact map some (acc.walk applied _)
  · exact acc.pure _

theorem resolveName? (each : ∀ s ∈ x.steps, s.Logged logs scope) (provider : Provider)
    (name : String) : logs (x.resolveName? provider scope name).log := by
  rw [Variable.resolveName?_eq]
  refine acc.bind (acc.marked? (fun s member => (each s member).key) name) ?_
  split
  · exact acc.pure _
  · exact acc.found? (fun s member => (each s member).apply) provider name

theorem resolve? (each : ∀ s ∈ x.steps, s.Logged logs scope) (provider : Provider) :
    logs (x.resolve? provider scope).log :=
  acc.firstSome fun name _ => acc.resolveName? each provider name

theorem reference (each : ∀ s ∈ x.steps, s.Logged logs scope) (provider : Provider) :
    logs (x.resolve provider scope).log :=
  acc.bind (acc.resolve? each provider) (acc.pure _)

theorem uncheckedReference (each : ∀ s ∈ steps, s.Logged logs scope) (id : Int)
    (names : List String) (provider : Provider) :
    logs (Variable.resolveUnchecked id names steps provider scope).log := by
  refine acc.bind (acc.firstSome fun x member => ?_) (acc.pure _)
  obtain ⟨i, -, rfl⟩ := List.mem_map.mp member
  exact acc.resolve? (fun s taken => each s (List.mem_of_mem_drop taken)) provider

/-! ### Loops -/

theorem iterate {everything : Bool} {condition step : Value → Value → Run Value}
    (conditions : ∀ accu x, logs (condition accu x).log)
    (steps : ∀ accu x, logs (step accu x).log) (elements : List Value) (accu : Value) :
    logs (ExprEngine.iterate everything condition step elements accu).log := by
  induction elements generalizing accu with
  | nil => exact acc.pure _
  | cons x rest ih =>
    rw [ExprEngine.iterate]
    refine acc.bind (conditions accu x) ?_
    split
    · exact acc.pure _
    · split
      · exact acc.pure _
      · refine acc.bind (steps accu x) ?_
        split
        · exact acc.pure _
        · exact ih _

end Accumulates

/-- A condition that looks at the events of nodes only. -/
structure OnNodes (logs : List Event → Prop) : Prop where
  append : ∀ {first rest}, logs first → logs rest → logs (first ++ rest)
  others : ∀ {log}, (∀ e ∈ log, e.ofNode = false) → logs log

namespace OnNodes

variable {logs : List Event → Prop} (nodes : OnNodes logs)

include nodes

theorem single {e : Event} (other : e.ofNode = false) : logs [e] :=
  nodes.others (List.forall_mem_singleton.mpr other)

theorem accumulates : Accumulates logs where
  nil := nodes.others fun _ member => nomatch member
  append := nodes.append
  plain _ plain := nodes.single (Event.ofNode_of_isPlain plain)

variable [HostObjects]

theorem dispatched (function : String) (candidates : List Overload) (args : List Value) :
    logs (dispatch function candidates args).log :=
  nodes.others fun e member =>
    Event.ofNode_of_ofCall (dispatch_ofCall function candidates args e member)

end OnNodes

end ExprEngine
