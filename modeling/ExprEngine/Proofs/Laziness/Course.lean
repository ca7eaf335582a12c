import ExprEngine.Program
import ExprEngine.Proofs.Evaluation.Logs
import Mathlib.Tactic.Choose

/-!
# Courses of evaluations

The course of an evaluation leaves open what the lazy bindings hold: it says what is done up to the
first resolution of one, and for each value of it how the evaluation goes on. An evaluation in a
scope that is supplied with the values of its lazy bindings is a course under these values, so it
cannot tell anything of a value before it resolves the binding, nor anything but the value then.
-/

namespace ExprEngine

/-! ### Supplied scopes -/

def Binding.supplied (values : Nat → Value) : Binding → Binding
  | .onDemand l => .onDemand { l with initialise := fun _ => values l.cell }
  | b => b

namespace Scope

/-- The scope whose lazy bindings have the values that their cells are supplied with. -/
def supplied (values : Nat → Value) : Scope → Scope
  | empty => empty
  | table t =>
    table { t with bindings := t.bindings.map fun (name, b) => (name, b.supplied values) }
  | function f => function f
  | layered parent child => layered (parent.supplied values) (child.supplied values)
  | frame parent name v => frame (parent.supplied values) name v
  | marked inner ps => marked (inner.supplied values) ps
  | recording inner => recording (inner.supplied values)

/-- Some layer binds the name to the value that the cell is computed for. -/
def Defers (cell : Nat) (name : String) : Scope → Prop
  | empty | function _ => False
  | table t => ∃ l : LazyValue, t.bindings.lookup name = some (.onDemand l) ∧ l.cell = cell
  | layered parent child => child.Defers cell name ∨ parent.Defers cell name
  | frame parent _ _ => parent.Defers cell name
  | marked inner _ | recording inner => inner.Defers cell name

def OnOffer (offer : Nat → String → Prop) (s : Scope) : Prop :=
  ∀ cell name, s.Defers cell name → offer cell name

theorem patterns_supplied (values : Nat → Value) (s : Scope) :
    (s.supplied values).patterns = s.patterns := by
  induction s with
  | layered parent child above below => simp only [supplied, patterns, above, below]
  | frame parent name v above => exact above
  | recording inner within => exact within
  | _ => rfl

theorem record_supplied (values : Nat → Value) (s : Scope) (id : Int) (v : Value) :
    (s.supplied values).record id v = s.record id v := by
  have same : (s.supplied values).isRecording = s.isRecording := by
    induction s with
    | layered parent child above below => simp only [supplied, isRecording, above, below]
    | frame parent name v above => exact above
    | marked inner ps within => exact within
    | _ => rfl
  rw [record, same, record]

end Scope

theorem lookup_supplied (values : Nat → Value) (bindings : List (String × Binding))
    (name : String) :
    (bindings.map fun (n, b) => (n, b.supplied values)).lookup name =
      (bindings.lookup name).map (Binding.supplied values) := by
  induction bindings with
  | nil => rfl
  | cons b rest ih =>
    rw [List.map_cons, List.lookup_cons, List.lookup_cons, ih]
    cases name == b.1 <;> rfl

/-! ### Courses -/

def Event.isDemand : Event → Bool
  | demanded .. => true
  | _ => false

/-- What is done in turn; `ask` resolves a lazy binding, which has to be one of those on offer, and
goes on with its value. -/
inductive Course (offer : Nat → String → Prop) (α : Type) where
  | done (a : α)
  | emit (e : Event) (silent : e.isDemand = false) (next : Course offer α)
  | ask (cell : Nat) (name : String) (offered : offer cell name) (next : Value → Course offer α)

namespace Course

variable {offer : Nat → String → Prop} {α β : Type}

/-- The run of a course where the cells have these values. -/
def under (values : Nat → Value) : Course offer α → Run α
  | done a => return a
  | emit e _ next => do
    Run.emit e
    next.under values
  | ask cell name _ next => do
    Run.emit (.demanded cell name (values cell))
    (next (values cell)).under values

def andThen : Course offer α → (α → Course offer β) → Course offer β
  | done a, f => f a
  | emit e silent next, f => emit e silent (next.andThen f)
  | ask cell name offered next, f => ask cell name offered fun v => (next v).andThen f

theorem under_andThen (values : Nat → Value) (c : Course offer α) (f : α → Course offer β) :
    (c.andThen f).under values = c.under values >>= fun a => (f a).under values := by
  induction c with
  | done a => exact (pure_bind a fun b => (f b).under values).symm
  | emit e silent next ih => rw [andThen, under, under, ih, bind_assoc]
  | ask cell name offered next ih => rw [andThen, under, under, ih, bind_assoc]

def ofRun (log : List Event) (a : α) (silent : ∀ e ∈ log, e.isDemand = false) : Course offer α :=
  match log with
  | [] => done a
  | e :: rest =>
    emit e (silent e List.mem_cons_self)
      (ofRun rest a fun f member => silent f (List.mem_cons_of_mem e member))

theorem under_ofRun (values : Nat → Value) (log : List Event) (a : α)
    (silent : ∀ e ∈ log, e.isDemand = false) :
    (ofRun log a silent : Course offer α).under values = ⟨a, log⟩ := by
  induction log with
  | nil => rfl
  | cons e rest ih =>
    rw [ofRun, under, ih]
    rfl

end Course

/-- The run resolves lazy bindings on offer only, and depends on their values in the course of
these resolutions only. -/
def InTurn (offer : Nat → String → Prop) {α : Type} (f : (Nat → Value) → Run α) : Prop :=
  ∃ c : Course offer α, ∀ values, c.under values = f values

namespace InTurn

variable {offer : Nat → String → Prop} {α β : Type}

theorem pure (a : α) : InTurn offer fun _ => (Pure.pure a : Run α) := ⟨.done a, fun _ => rfl⟩

theorem bind {f : (Nat → Value) → Run α} {g : α → (Nat → Value) → Run β} (first : InTurn offer f)
    (next : ∀ a, InTurn offer (g a)) :
    InTurn offer fun values => f values >>= fun a => g a values := by
  obtain ⟨c, runs⟩ := first
  choose d follows using next
  exact ⟨c.andThen d, fun values => by simp only [Course.under_andThen, runs, follows]⟩

theorem map {f : (Nat → Value) → Run α} (g : α → β) (runs : InTurn offer f) :
    InTurn offer fun values => g <$> f values := by
  simp only [map_eq_pure_bind]
  exact runs.bind fun a => pure (g a)

theorem silent (r : Run α) (silent : ∀ e ∈ r.log, e.isDemand = false) :
    InTurn offer fun _ => r :=
  ⟨.ofRun r.log r.value silent, fun values => Course.under_ofRun values r.log r.value silent⟩

theorem emit (e : Event) (silent : e.isDemand = false) : InTurn offer fun _ => Run.emit e :=
  ⟨.emit e silent (.done ()), fun _ => rfl⟩

theorem ite {c : Prop} [Decidable c] {f g : (Nat → Value) → Run α} (yes : c → InTurn offer f)
    (no : ¬ c → InTurn offer g) :
    InTurn offer fun values => if c then f values else g values := by
  by_cases h : c
  · simpa only [if_pos h] using yes h
  · simpa only [if_neg h] using no h

theorem node {f : (Nat → Value) → Run α} (id : Int) (rest : InTurn offer f) :
    InTurn offer fun values => Run.reach id >>= fun _ => f values :=
  (emit (.reached id) rfl).bind fun _ => rest

theorem dispatched [HostObjects] (function : String) (candidates : List Overload)
    (args : List Value) :
    InTurn offer fun _ => dispatch function candidates args :=
  silent _ fun e member => by
    have call := dispatch_ofCall function candidates args e member
    cases e <;> first | rfl | cases call

/-! ### Names -/

theorem resolve {s : Scope} (offered : s.OnOffer offer)
    (name : String) : InTurn offer fun values => (s.supplied values).resolve name := by
  induction s with
  | empty => exact pure none
  | function f => exact pure (f name)
  | table t =>
    simp only [Scope.supplied, Scope.resolve, Table.resolve, lookup_supplied]
    cases bound : t.bindings.lookup name with
    | none => exact pure none
    | some b =>
      refine map some ?_
      cases b with
      | value v => exact pure v
      | onDemand l =>
        have offered : offer l.cell name := offered l.cell name ⟨l, bound, rfl⟩
        exact ⟨.ask l.cell name offered .done, fun _ => rfl⟩
      | data d => exact pure (t.adapter d)
  | layered parent child above below =>
    simp only [Scope.supplied, Scope.resolve]
    refine (below fun cell name defers => offered cell name (.inl defers)).bind fun found => ?_
    cases found with
    | some v => exact pure (some v)
    | none => exact above fun cell name defers => offered cell name (.inr defers)
  | frame parent n v above =>
    simp only [Scope.supplied, Scope.resolve]
    exact ite (fun _ => pure (some v)) fun _ => above offered
  | marked inner ps within => exact within offered
  | recording inner within => exact within offered

end InTurn

structure Step.InTurn (offer : Nat → String → Prop) (scope : Scope) (s : Step) : Prop where
  key : ExprEngine.InTurn offer fun values => s.key (scope.supplied values)
  apply : ∀ v, ExprEngine.InTurn offer fun values => s.apply (scope.supplied values) v

namespace InTurn

variable {offer : Nat → String → Prop} {scope : Scope} {steps : List Step}

theorem walk (each : ∀ s ∈ steps, s.InTurn offer scope) (v : Value) :
    InTurn offer fun values => Step.walk (scope.supplied values) steps v := by
  induction steps generalizing v with
  | nil => exact pure v
  | cons s rest ih =>
    simp only [Step.walk]
    refine ite (fun _ => pure v) fun _ => ((each s List.mem_cons_self).apply v).bind fun w => ?_
    refine (emit (.qualified s.id) rfl).bind fun _ => ?_
    exact ih (fun t member => each t (List.mem_cons_of_mem s member)) _

theorem keys (each : ∀ s ∈ steps, s.InTurn offer scope) :
    InTurn offer fun values => Step.keys (scope.supplied values) steps := by
  induction steps with
  | nil => exact pure _
  | cons s rest ih =>
    simp only [Step.keys]
    refine (each s List.mem_cons_self).key.bind fun key => ite (fun _ => pure _) fun _ => ?_
    refine (ih fun t member => each t (List.mem_cons_of_mem s member)).bind fun others => ?_
    cases others with
    | ok ks => exact pure _
    | error unknown => exact pure _

theorem firstSome {α : Type} {f : (Nat → Value) → α → Run (Option Value)} {as : List α}
    (each : ∀ a ∈ as, InTurn offer fun values => f values a) :
    InTurn offer fun values => Variable.firstSome (f values) as := by
  induction as with
  | nil => exact pure none
  | cons a rest ih =>
    simp only [Variable.firstSome]
    refine (each a List.mem_cons_self).bind fun found => ?_
    cases found with
    | some v => exact pure (some v)
    | none => exact ih fun b member => each b (List.mem_cons_of_mem a member)

variable {x : Variable} (offered : scope.OnOffer offer)

theorem unknown? (each : ∀ s ∈ x.steps, s.InTurn offer scope) (name : String) :
    InTurn offer fun values => x.unknown? (scope.supplied values) name := by
  simp only [Variable.unknown?, Scope.patterns_supplied]
  cases scope.patterns.filter (·.name == name) with
  | nil => exact pure none
  | cons p ps =>
    refine ite (fun _ => pure _) fun _ => (keys each).bind fun found => ?_
    cases found with
    | ok ks => exact pure _
    | error unknown => exact pure _

include offered

theorem found? (each : ∀ s ∈ x.steps, s.InTurn offer scope) (provider : Provider) (name : String) :
    InTurn offer fun values => x.found? provider (scope.supplied values) name := by
  simp only [Variable.found?]
  refine (resolve offered name).bind fun found => ?_
  cases found with
  | some v => exact map some (walk each v)
  | none => exact pure _

theorem resolveName? (each : ∀ s ∈ x.steps, s.InTurn offer scope) (provider : Provider)
    (name : String) :
    InTurn offer fun values => x.resolveName? provider (scope.supplied values) name := by
  have marked : InTurn offer fun values => x.marked? (scope.supplied values) name := by
    simp only [Variable.marked?]
    exact ite (fun _ => pure none) fun _ => unknown? each name
  simp only [Variable.resolveName?_eq]
  refine marked.bind fun mark => ?_
  cases mark with
  | some unknown => exact pure _
  | none => exact found? offered each provider name

theorem resolve? (each : ∀ s ∈ x.steps, s.InTurn offer scope) (provider : Provider) :
    InTurn offer fun values => x.resolve? provider (scope.supplied values) :=
  firstSome fun name _ => resolveName? offered each provider name

theorem reference (each : ∀ s ∈ x.steps, s.InTurn offer scope) (provider : Provider) :
    InTurn offer fun values => x.resolve provider (scope.supplied values) :=
  (resolve? offered each provider).bind fun _ => pure _

theorem uncheckedReference (each : ∀ s ∈ steps, s.InTurn offer scope) (id : Int)
    (names : List String) (provider : Provider) :
    InTurn offer fun values =>
      Variable.resolveUnchecked id names steps provider (scope.supplied values) := by
  refine (firstSome fun x member => ?_).bind fun _ => pure _
  obtain ⟨i, -, rfl⟩ := List.mem_map.mp member
  exact resolve? offered (fun s taken => each s (List.mem_of_mem_drop taken)) provider

omit offered

/-! ### Loops -/

theorem iterate {everything : Bool} {condition step : (Nat → Value) → Value → Value → Run Value}
    (conditions : ∀ accu x, InTurn offer fun values => condition values accu x)
    (steps : ∀ accu x, InTurn offer fun values => step values accu x) (elements : List Value)
    (accu : Value) :
    InTurn offer fun values =>
      ExprEngine.iterate everything (condition values) (step values) elements accu := by
  induction elements generalizing accu with
  | nil => exact pure _
  | cons x rest ih =>
    simp only [ExprEngine.iterate]
    refine (conditions accu x).bind fun c => ite (fun _ => pure _) fun _ => ite (fun _ => pure _)
      fun _ => ?_
    exact (steps accu x).bind fun next => ite (fun _ => pure _) fun _ => ih next

end InTurn

variable [HostObjects]

namespace Plan

variable {offer : Nat → String → Prop}

mutual

/-- An evaluation resolves lazy bindings of its scope in turn. -/
theorem eval_inTurn (provider : Provider) (p : Plan) (everything : Bool) {scope : Scope}
    (offered : scope.OnOffer offer) :
    InTurn offer fun values => eval provider p everything (scope.supplied values) := by
  match p with
  | const id v => exact .node id (.pure v)
  | attr id a => exact .node id (resolve_inTurn provider a everything offered)
  | both id l r | either id l r =>
    simp only [eval]
    refine .node id ((eval_inTurn provider l false offered).bind fun left => ?_)
    refine .ite (fun _ => .pure left) fun _ => ?_
    exact (eval_inTurn provider r false offered).bind fun right => .pure _
  | conditional id g t f =>
    have whenTrue := eval_inTurn provider t false offered
    have whenFalse := eval_inTurn provider f false offered
    simp only [eval]
    refine .node id ((eval_inTurn provider g false offered).bind fun guard => ?_)
    -- Exhaustive evaluation resolves what both branches do, whichever of them counts.
    refine .ite (fun _ => whenTrue.bind fun v => whenFalse.bind fun w => .pure _) fun _ => ?_
    cases guard with
    | bool b => cases b with
      | true => exact whenTrue
      | false => exact whenFalse
    | _ => exact .pure _
  | call id function args overloads =>
    simp only [eval]
    refine .node id ((evalAll_inTurn provider args offered).bind fun values => ?_)
    cases (if overloads.any Overload.nonStrict then none else Value.propagate values) with
    | some v => exact .pure v
    | none => exact (InTurn.dispatched function overloads values).bind fun v => .pure _
  | list id elements =>
    simp only [eval]
    exact .node id ((evalAll_inTurn provider elements offered).bind fun values => .pure _)
  | mapping id entries =>
    simp only [eval]
    exact .node id ((evalEntries_inTurn provider entries offered).bind fun pairs => .pure _)
  | object id typeName fields =>
    simp only [eval]
    refine .node id ((evalFields_inTurn provider fields offered).bind fun values => ?_)
    cases Value.propagate (values.map Prod.snd) with
    | some v => exact .pure v
    | none => exact (InTurn.emit _ rfl).bind fun _ => .pure _
  | presence id operand field access =>
    simp only [eval]
    refine .node id ((eval_inTurn provider operand false offered).bind fun v => ?_)
    exact (InTurn.emit _ rfl).bind fun _ => .pure _
  | loop id iterVar range accuVar init condition step result =>
    simp only [eval]
    refine .node id ((eval_inTurn provider range false offered).bind fun ranged => ?_)
    refine .ite (fun _ => .pure ranged) fun _ => ?_
    cases ranged.elements? with
    | none => exact .pure _
    | some elements =>
      refine (eval_inTurn provider init false offered).bind fun start => ?_
      have framed (accu : Value) : (Scope.frame scope accuVar accu).OnOffer offer := offered
      have inside (accu x : Value) :
          (Scope.frame (.frame scope accuVar accu) iterVar x).OnOffer offer := offered
      have conditions (accu x : Value) := eval_inTurn provider condition false (inside accu x)
      have steps (accu x : Value) := eval_inTurn provider step false (inside accu x)
      refine (InTurn.iterate conditions steps elements start).bind fun last => ?_
      cases last with
      | ok accu => exact eval_inTurn provider result false (framed accu)
      | error e => exact .pure e
  | membership id element items keys function overloads =>
    simp only [eval]
    refine .node id ((eval_inTurn provider element false offered).bind fun v => ?_)
    refine .ite (fun _ => .pure v) fun _ => ?_
    cases Key.ofValue? v with
    | some key => exact (InTurn.emit _ rfl).bind fun _ => .pure _
    | none => exact (InTurn.dispatched function overloads _).bind fun _ => .pure _
  | search id text source pattern function overloads =>
    simp only [eval]
    refine .node id ((eval_inTurn provider text false offered).bind fun v => ?_)
    have other : InTurn offer fun _ => if v.isFailure then pure v
        else do return (← dispatch function overloads [v, .string source]).withExprId id :=
      .ite (fun _ => .pure v) fun _ =>
        (InTurn.dispatched function overloads _).bind fun _ => .pure _
    cases v with
    | string s => exact (InTurn.emit _ rfl).bind fun _ => .pure _
    | _ => exact other
  | exhaustive inner => exact eval_inTurn provider inner true offered
  | observed inner =>
    simp only [eval, Scope.record_supplied]
    refine (eval_inTurn provider inner false offered).bind fun v => ?_
    have recorded : InTurn offer fun _ => scope.record inner.id v :=
      .ite (fun _ => .emit _ rfl) fun _ => .pure ()
    exact recorded.bind fun _ => .pure v

theorem evalAll_inTurn (provider : Provider) (ps : List Plan) {scope : Scope}
    (offered : scope.OnOffer offer) :
    InTurn offer fun values => evalAll provider ps (scope.supplied values) := by
  match ps with
  | [] => exact .pure []
  | p :: rest =>
    simp only [evalAll]
    refine (eval_inTurn provider p false offered).bind fun v => ?_
    exact (evalAll_inTurn provider rest offered).bind fun vs => .pure _

theorem evalEntries_inTurn (provider : Provider) (entries : List (Plan × Plan)) {scope : Scope}
    (offered : scope.OnOffer offer) :
    InTurn offer fun values => evalEntries provider entries (scope.supplied values) := by
  match entries with
  | [] => exact .pure []
  | (key, value) :: rest =>
    simp only [evalEntries]
    refine (eval_inTurn provider key false offered).bind fun k => ?_
    refine (eval_inTurn provider value false offered).bind fun v => ?_
    exact (evalEntries_inTurn provider rest offered).bind fun pairs => .pure _

theorem evalFields_inTurn (provider : Provider) (fields : List (String × Plan)) {scope : Scope}
    (offered : scope.OnOffer offer) :
    InTurn offer fun values => evalFields provider fields (scope.supplied values) := by
  match fields with
  | [] => exact .pure []
  | (name, value) :: rest =>
    simp only [evalFields]
    refine (eval_inTurn provider value false offered).bind fun v => ?_
    exact (evalFields_inTurn provider rest offered).bind fun others => .pure _

theorem resolve_inTurn (provider : Provider) (a : Attribute) (everything : Bool) {scope : Scope}
    (offered : scope.OnOffer offer) :
    InTurn offer fun values => resolve provider a everything (scope.supplied values) := by
  match a with
  | .absolute id isLocal names qs =>
    simp only [resolve]
    exact .reference (x := ⟨id, isLocal, names, steps provider qs⟩) offered
      (steps_inTurn provider qs offered) provider
  | .ambiguous id names qs =>
    simp only [resolve]
    exact .uncheckedReference offered (steps_inTurn provider qs offered) id names provider
  | .relative id operand qs =>
    simp only [resolve]
    refine (eval_inTurn provider operand false offered).bind fun v => ?_
    exact .walk (steps_inTurn provider qs offered) v
  | .conditional id g t f =>
    simp only [resolve]
    refine (eval_inTurn provider g false offered).bind fun guard => .ite (fun _ => ?_) fun _ => ?_
    · refine (resolve_inTurn provider t true offered).bind fun v => ?_
      exact (resolve_inTurn provider f true offered).bind fun w => .pure _
    · cases guard with
      | bool b => cases b with
        | true => exact resolve_inTurn provider t false offered
        | false => exact resolve_inTurn provider f false offered
      | _ => exact .pure _

theorem steps_inTurn (provider : Provider) (qs : List Qualifier) {scope : Scope}
    (offered : scope.OnOffer offer) :
    ∀ s ∈ steps provider qs, s.InTurn offer scope := by
  match qs with
  | [] => exact fun _ member => nomatch member
  | .field id name access :: rest | .constant id key :: rest =>
    intro s member
    rcases List.mem_cons.mp member with rfl | member
    · exact ⟨.pure _, fun _ => .pure _⟩
    · exact steps_inTurn provider rest offered s member
  | .computed id key :: rest =>
    have keyed := eval_inTurn provider key false offered
    intro s member
    rcases List.mem_cons.mp member with rfl | member
    · exact ⟨keyed, fun _ => keyed.bind fun _ => .pure _⟩
    · exact steps_inTurn provider rest offered s member

end

end Plan

theorem Program.eval_inTurn (program : Program) {offer : Nat → String → Prop} {scope : Scope}
    (offered : scope.OnOffer offer) :
    InTurn offer fun values => program.eval (scope.supplied values) :=
  Plan.eval_inTurn program.provider program.root false offered

end ExprEngine
