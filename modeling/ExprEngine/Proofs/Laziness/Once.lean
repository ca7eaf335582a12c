import ExprEngine.Proofs.Laziness.Course
import ExprEngine.Run.Session
import Mathlib.Data.List.Forall2

/-!
# Lazy bindings run once

Evaluations that share cells are performed one after the other, in one session. What an initialiser
gives when the session runs it may depend on everything that has happened. `Once` says of a history
that every initialiser runs at most once, and `perform_sound` that a course keeps to it.
-/

namespace ExprEngine

inductive Happening where
  | event (e : Event)
  /-- The initialiser of a binding ran and gave the value. -/
  | initialised (cell : Nat) (name : String) (value : Value)
  /-- The binding was resolved to the value. -/
  | resolved (cell : Nat) (name : String) (value : Value)

namespace Happening

/-- The value that the initialiser of the cell gave. -/
def gave? (cell : Nat) : Happening → Option Value
  | initialised c _ v => if c = cell then some v else none
  | _ => none

/-- The event in the log of an evaluation. -/
def event? : Happening → Option Event
  | event e => some e
  | initialised .. => none
  | resolved cell name v => some (.demanded cell name v)

/-- What a host is told of the run of an initialiser. -/
def report? : Happening → Option String
  | initialised _ name _ => some name
  | _ => none

end Happening

/-! ### Histories -/

section Histories

variable {past : List Happening} {cell : Nat} {name : String} {v : Value}

/-- The value that a cell holds after what has happened. -/
def held? (past : List Happening) (cell : Nat) : Option Value := past.findSome? (·.gave? cell)

/-- The log that evaluations leave of what happened. -/
def events (past : List Happening) : List Event := past.filterMap Happening.event?

theorem held?_append (past later : List Happening) (cell : Nat) :
    held? (past ++ later) cell = (held? past cell).or (held? later cell) :=
  List.findSome?_append

theorem held?_event (past : List Happening) (e : Event) (cell : Nat) :
    held? (past ++ [.event e]) cell = held? past cell := by
  rw [held?_append]
  exact Option.or_none

theorem held?_resolved (past : List Happening) (other : Nat) (name : String) (v : Value)
    (cell : Nat) : held? (past ++ [.resolved other name v]) cell = held? past cell := by
  rw [held?_append]
  exact Option.or_none

theorem held?_initialised (past : List Happening) (other : Nat) (name : String) (v : Value)
    (cell : Nat) :
    held? (past ++ [.initialised other name v]) cell =
      (held? past cell).or (if other = cell then some v else none) := by
  rw [held?_append, held?, held?, List.findSome?_singleton]
  rfl

/-- The cells are supplied with what they hold. -/
def Agrees (values : Nat → Value) (past : List Happening) : Prop :=
  ∀ cell v, held? past cell = some v → values cell = v

theorem exists_agrees (past : List Happening) : ∃ values, Agrees values past :=
  ⟨fun cell => (held? past cell).getD .null, fun cell v holds => by
    dsimp only
    rw [holds, Option.getD_some]⟩

theorem Agrees.mono {values : Nat → Value} {last : List Happening} (agrees : Agrees values last)
    (earlier : past <+: last) : Agrees values past := by
  obtain ⟨later, rfl⟩ := earlier
  intro cell v holds
  exact agrees cell v (by rw [held?_append, holds, Option.some_or])

theorem events_append (past later : List Happening) :
    events (past ++ later) = events past ++ events later := List.filterMap_append ..

theorem events_resolved (past : List Happening) (cell : Nat) (name : String) (v : Value) :
    events (past ++ [.resolved cell name v]) = events past ++ [.demanded cell name v] :=
  events_append ..

/-- The log does not tell whether an initialiser had to run. -/
theorem events_first (past : List Happening) (cell : Nat) (name : String) (v : Value) :
    events (past ++ [.initialised cell name v] ++ [.resolved cell name v]) =
      events past ++ [.demanded cell name v] := by
  rw [events_resolved, events_append]
  exact congrArg (· ++ [Event.demanded cell name v]) (List.append_nil _)

/-- What happens where every cell is initialised at its first resolution and never again. -/
inductive Once : List Happening → Prop where
  | nil : Once []
  | event {past : List Happening} (e : Event) (silent : e.isDemand = false) (before : Once past) :
      Once (past ++ [.event e])
  | first {past : List Happening} {cell : Nat} (name : String) (v : Value)
      (empty : held? past cell = none) (before : Once past) :
      Once (past ++ [.initialised cell name v] ++ [.resolved cell name v])
  | again {past : List Happening} {cell : Nat} {v : Value} (name : String)
      (holds : held? past cell = some v) (before : Once past) :
      Once (past ++ [.resolved cell name v])

namespace Once

theorem filterMap_gave? (once : Once past) (cell : Nat) :
    past.filterMap (·.gave? cell) = (held? past cell).toList := by
  induction once with
  | nil => rfl
  | event e _ _ ih =>
    rw [List.filterMap_append, ih, held?_event]
    exact List.append_nil _
  | again name _ _ ih =>
    rw [List.filterMap_append, ih, held?_resolved]
    exact List.append_nil _
  | @first past other name v empty _ ih =>
    rw [List.filterMap_append, List.filterMap_append, ih, held?_resolved, held?_initialised]
    by_cases same : other = cell
    · subst same
      simp [empty, Happening.gave?]
    · simp [same, Happening.gave?]

theorem exists_initialised (holds : held? past cell = some v) :
    ∃ name, .initialised cell name v ∈ past := by
  obtain ⟨h, member, gave⟩ := List.exists_of_findSome?_eq_some holds
  cases h with
  | initialised c name w =>
    simp only [Happening.gave?, Option.ite_none_right_eq_some, Option.some.injEq] at gave
    obtain ⟨rfl, rfl⟩ := gave
    exact ⟨name, member⟩
  | event | resolved => cases gave

theorem held?_of_resolved (once : Once past) (member : .resolved cell name v ∈ past) :
    held? past cell = some v := by
  induction once with
  | nil => cases member
  | event e _ _ ih =>
    rcases List.mem_append.mp member with earlier | now
    · rw [held?_event, ih earlier]
    · cases List.mem_singleton.mp now
  | again other holds _ ih =>
    rw [held?_resolved]
    rcases List.mem_append.mp member with earlier | now
    · exact ih earlier
    · cases List.mem_singleton.mp now
      exact holds
  | first other w empty _ ih =>
    rw [held?_resolved, held?_initialised]
    rcases List.mem_append.mp member with earlier | now
    · rcases List.mem_append.mp earlier with earlier | now
      · rw [ih earlier, Option.some_or]
      · cases List.mem_singleton.mp now
    · cases List.mem_singleton.mp now
      rw [empty, if_pos rfl, Option.none_or]

theorem resolved_of_initialised (once : Once past) {before : List Happening}
    (reached : before ++ [.initialised cell name v] <+: past) :
    (∀ other w, .resolved cell other w ∉ before) ∧
      before ++ [.initialised cell name v] ++ [.resolved cell name v] <+: past := by
  induction once with
  | nil => simp at reached
  | event e _ _ ih =>
    rcases List.prefix_concat_iff.mp reached with now | earlier
    · cases (List.append_inj' now rfl).2
    · obtain ⟨unresolved, next⟩ := ih earlier
      exact ⟨unresolved, List.prefix_append_of_prefix next⟩
  | again other holds _ ih =>
    rcases List.prefix_concat_iff.mp reached with now | earlier
    · cases (List.append_inj' now rfl).2
    · obtain ⟨unresolved, next⟩ := ih earlier
      exact ⟨unresolved, List.prefix_append_of_prefix next⟩
  | first other w empty once ih =>
    rcases List.prefix_concat_iff.mp reached with now | earlier
    · cases (List.append_inj' now rfl).2
    · rcases List.prefix_concat_iff.mp earlier with now | earlier
      · obtain ⟨rfl, same⟩ := List.append_inj' now rfl
        cases same
        -- A resolution before this one would have left a value in the cell.
        refine ⟨fun n w member => ?_, List.prefix_rfl⟩
        rw [once.held?_of_resolved member] at empty
        cases empty
      · obtain ⟨unresolved, next⟩ := ih earlier
        exact ⟨unresolved, List.prefix_append_of_prefix (List.prefix_append_of_prefix next)⟩

end Once

end Histories

/-! ### Performances -/

/-- How far a performance has come: the session of its cells, and what has happened. -/
structure Stage where
  session : Session := {}
  past : List Happening := []

namespace Stage

def resolve (st : Stage) (cell : Nat) (name : String) (initialise : Unit → Value) : Value × Stage :=
  let (v, session, ran) := st.session.demand cell initialise
  let first := if ran then [.initialised cell name v] else []
  (v, ⟨session, st.past ++ first ++ [.resolved cell name v]⟩)

/-- The cells of the session hold what their only initialisers gave, and a session that follows the
log alone comes to the same cells and reports exactly the runs of initialisers. -/
structure Sound (st : Stage) : Prop where
  once : Once st.past
  held : ∀ cell, st.session.held? cell = held? st.past cell
  followed : ({} : Session).follow (events st.past) =
    (st.session, st.past.filterMap Happening.report?)

theorem sound_start : ({} : Stage).Sound := ⟨.nil, fun _ => rfl, rfl⟩

theorem follow_concat {events : List Event} {s : Session} {names : List String}
    (followed : ({} : Session).follow events = (s, names)) (e : Event) :
    ({} : Session).follow (events ++ [e]) = ((s.step e).1, names ++ (s.step e).2) := by
  simp only [Session.follow_append, followed, Session.follow, List.append_nil]

theorem step_silent (s : Session) {e : Event} (silent : e.isDemand = false) :
    s.step e = (s, []) := by
  cases e with
  | demanded => cases silent
  | _ => rfl

variable {st : Stage}

theorem Sound.event (sound : st.Sound) {e : Event} (silent : e.isDemand = false) :
    Sound { st with past := st.past ++ [.event e] } where
  once := sound.once.event e silent
  held cell := by rw [held?_event, sound.held]
  followed := by
    have logged : events (st.past ++ [.event e]) = events st.past ++ [e] := events_append ..
    rw [logged, follow_concat sound.followed, step_silent _ silent, List.filterMap_append]
    rfl

/-- What a resolution comes to: the cell holds the value after it, and the log and the names do not
depend on whether it did so before. -/
structure Resolves (st : Stage) (cell : Nat) (name : String) (given v : Value) (later : Stage) :
    Prop where
  sound : later.Sound
  stays : st.past <+: later.past
  holds : held? later.past cell = some v
  logged : events later.past = events st.past ++ [.demanded cell name v]
  agrees : ∀ values, Agrees values st.past → values cell = given → Agrees values later.past
  named : ∀ other n w, .resolved other n w ∈ later.past →
    .resolved other n w ∈ st.past ∨ other = cell ∧ n = name

theorem Sound.again (sound : st.Sound) {cell : Nat} {v : Value}
    (holds : held? st.past cell = some v) (name : String) (given : Value) :
    Resolves st cell name given v ⟨st.session, st.past ++ [.resolved cell name v]⟩ where
  sound.once := .again name holds sound.once
  sound.held other := by rw [held?_resolved, sound.held]
  sound.followed := by
    have held : st.session.held? cell = some v := (sound.held cell).trans holds
    rw [events_resolved, follow_concat sound.followed, Session.step, Session.demand_of_held held,
      List.filterMap_append]
    rfl
  stays := List.prefix_append ..
  holds := by rw [held?_resolved, holds]
  logged := events_resolved ..
  agrees values agrees _ other w := by
    rw [held?_resolved]
    exact agrees other w
  named other n w member := by
    refine (List.mem_append.mp member).imp_right fun now => ?_
    cases List.mem_singleton.mp now
    exact ⟨rfl, rfl⟩

theorem Sound.first (sound : st.Sound) {cell : Nat} (empty : held? st.past cell = none)
    (name : String) (v : Value) :
    Resolves st cell name v v
      ⟨st.session.fill cell v,
        st.past ++ [.initialised cell name v] ++ [.resolved cell name v]⟩ where
  sound.once := .first name v empty sound.once
  sound.held other := by
    rw [held?_resolved, held?_initialised, Session.held?_fill, sound.held]
    by_cases same : other = cell
    · rw [same, empty, if_pos rfl]
      rfl
    · rw [if_neg same, if_neg (Ne.symm same), Option.or_none]
  sound.followed := by
    have unheld : st.session.held? cell = none := (sound.held cell).trans empty
    rw [events_first, follow_concat sound.followed, Session.step, Session.demand_of_empty unheld,
      List.filterMap_append, List.filterMap_append]
    exact congrArg (Prod.mk _) (List.append_nil _).symm
  stays := (List.prefix_append ..).trans (List.prefix_append ..)
  holds := by rw [held?_resolved, held?_initialised, empty, if_pos rfl, Option.none_or]
  logged := events_first ..
  agrees values agrees same other w holds := by
    rw [held?_resolved, held?_initialised] at holds
    rcases Option.or_eq_some_iff.mp holds with earlier | ⟨-, now⟩
    · exact agrees other w earlier
    · simp only [Option.ite_none_right_eq_some, Option.some.injEq] at now
      obtain ⟨rfl, rfl⟩ := now
      exact same
  named other n w member := by
    rcases List.mem_append.mp member with earlier | now
    · refine .inl ((List.mem_append.mp earlier).resolve_right fun now => ?_)
      cases List.mem_singleton.mp now
    · cases List.mem_singleton.mp now
      exact .inr ⟨rfl, rfl⟩

theorem Sound.resolves (sound : st.Sound) (cell : Nat) (name : String) (initialise : Unit → Value) :
    Resolves st cell name (initialise ()) (st.resolve cell name initialise).1
      (st.resolve cell name initialise).2 := by
  cases holds : held? st.past cell with
  | some v =>
    rw [resolve, Session.demand_of_held ((sound.held cell).trans holds)]
    simpa using sound.again holds name (initialise ())
  | none =>
    rw [resolve, Session.demand_of_empty ((sound.held cell).trans holds)]
    exact sound.first holds name (initialise ())

end Stage

namespace Course

variable {offer : Nat → String → Prop} {α : Type}

/-- What initialisers give, which may depend on what has happened before. -/
abbrev Initialisers : Type := Nat → List Happening → Value

/-- Performs a course; the session decides whether an initialiser has to run. -/
def perform (gives : Initialisers) : Course offer α → Stage → α × Stage
  | done a, st => (a, st)
  | emit e _ next, st => next.perform gives { st with past := st.past ++ [.event e] }
  | ask cell name _ next, st =>
    let (v, later) := st.resolve cell name fun _ => gives cell st.past
    (next v).perform gives later

def performAll (gives : Initialisers) : List (Course offer α) → Stage → List α × Stage
  | [], st => ([], st)
  | c :: rest, st =>
    let (a, later) := c.perform gives st
    let (others, last) := performAll gives rest later
    (a :: others, last)

variable {gives : Initialisers} {st : Stage}

theorem perform_ask (gives : Initialisers) (cell : Nat) (name : String)
    (offered : offer cell name) (next : Value → Course offer α) (st : Stage) :
    (ask cell name offered next).perform gives st =
      (next (st.resolve cell name fun _ => gives cell st.past).1).perform gives
        (st.resolve cell name fun _ => gives cell st.past).2 := rfl

theorem perform_sound (c : Course offer α) (sound : st.Sound) : (c.perform gives st).2.Sound := by
  induction c generalizing st with
  | done a => exact sound
  | emit e silent next ih => exact ih (sound.event silent)
  | ask cell name offered next ih =>
    exact ih _ (sound.resolves cell name fun _ => gives cell st.past).sound

theorem prefix_perform (c : Course offer α) (sound : st.Sound) :
    st.past <+: (c.perform gives st).2.past := by
  induction c generalizing st with
  | done a => exact List.prefix_rfl
  | emit e silent next ih => exact (List.prefix_append ..).trans (ih (sound.event silent))
  | ask cell name offered next ih =>
    have resolves := sound.resolves cell name fun _ => gives cell st.past
    exact resolves.stays.trans (ih _ resolves.sound)

/-- With values that the cells hold in the end, a performance comes to what the run comes to. -/
theorem perform_eq_under (c : Course offer α) (sound : st.Sound) {values : Nat → Value}
    (agrees : Agrees values (c.perform gives st).2.past) :
    (c.perform gives st).1 = (c.under values).value ∧
      events (c.perform gives st).2.past = events st.past ++ (c.under values).log := by
  induction c generalizing st with
  | done a => exact ⟨rfl, (List.append_nil _).symm⟩
  | emit e silent next ih =>
    obtain ⟨result, log⟩ := ih (sound.event silent) agrees
    refine ⟨result, ?_⟩
    rw [perform, log, events_append, List.append_assoc]
    rfl
  | ask cell name offered next ih =>
    have resolves := sound.resolves cell name fun _ => gives cell st.past
    rw [perform_ask] at agrees ⊢
    generalize st.resolve cell name (fun _ => gives cell st.past) = resolution at *
    obtain ⟨v, later⟩ := resolution
    obtain ⟨result, log⟩ := ih v resolves.sound agrees
    -- The cell keeps what it holds after the resolution to the end.
    have value : values cell = v :=
      agrees.mono (prefix_perform (next v) resolves.sound) cell v resolves.holds
    rw [under, value]
    refine ⟨result, log.trans ?_⟩
    rw [resolves.logged, List.append_assoc]
    rfl

/-- Initialisers that give the same at any time leave just that in the cells. -/
theorem perform_agrees (c : Course offer α) (sound : st.Sound) {values : Nat → Value}
    (same : ∀ cell past, gives cell past = values cell) (agrees : Agrees values st.past) :
    Agrees values (c.perform gives st).2.past := by
  induction c generalizing st with
  | done a => exact agrees
  | emit e silent next ih =>
    refine ih (sound.event silent) fun cell v holds => agrees cell v ?_
    rwa [held?_event] at holds
  | ask cell name offered next ih =>
    have resolves := sound.resolves cell name fun _ => gives cell st.past
    exact ih _ resolves.sound (resolves.agrees values agrees (same cell st.past).symm)

theorem mem_perform (c : Course offer α) (sound : st.Sound) {cell : Nat} {name : String} {v : Value}
    (member : .resolved cell name v ∈ (c.perform gives st).2.past) :
    .resolved cell name v ∈ st.past ∨ offer cell name := by
  induction c generalizing st with
  | done a => exact .inl member
  | emit e silent next ih =>
    refine (ih (sound.event silent) member).imp_left fun earlier => ?_
    simpa using earlier
  | ask other n offered next ih =>
    have resolves := sound.resolves other n fun _ => gives other st.past
    rcases ih _ resolves.sound member with reached | offered
    · refine (resolves.named cell name v reached).imp_right ?_
      rintro ⟨rfl, rfl⟩
      exact offered
    · exact .inr offered

section All

variable (courses : List (Course offer α))

theorem performAll_sound (sound : st.Sound) : (performAll gives courses st).2.Sound := by
  induction courses generalizing st with
  | nil => exact sound
  | cons c rest ih => exact ih (c.perform_sound sound)

theorem prefix_performAll (sound : st.Sound) :
    st.past <+: (performAll gives courses st).2.past := by
  induction courses generalizing st with
  | nil => exact List.prefix_rfl
  | cons c rest ih => exact (c.prefix_perform sound).trans (ih (c.perform_sound sound))

theorem performAll_eq_under (sound : st.Sound) {values : Nat → Value}
    (agrees : Agrees values (performAll gives courses st).2.past) :
    (performAll gives courses st).1 = courses.map (fun c => (c.under values).value) ∧
      events (performAll gives courses st).2.past =
        events st.past ++ courses.flatMap fun c => (c.under values).log := by
  induction courses generalizing st with
  | nil => exact ⟨rfl, (List.append_nil _).symm⟩
  | cons c rest ih =>
    have performed : (c.perform gives st).2.Sound := c.perform_sound sound
    obtain ⟨others, logs⟩ := ih performed agrees
    obtain ⟨result, log⟩ :=
      c.perform_eq_under sound (agrees.mono (prefix_performAll rest performed))
    constructor
    · rw [List.map_cons, ← result, ← others]
      rfl
    · rw [List.flatMap_cons, ← List.append_assoc, ← log, ← logs]
      rfl

theorem performAll_agrees (sound : st.Sound) {values : Nat → Value}
    (same : ∀ cell past, gives cell past = values cell) (agrees : Agrees values st.past) :
    Agrees values (performAll gives courses st).2.past := by
  induction courses generalizing st with
  | nil => exact agrees
  | cons c rest ih => exact ih (c.perform_sound sound) (c.perform_agrees sound same agrees)

theorem mem_performAll (sound : st.Sound) {cell : Nat} {name : String} {v : Value}
    (member : .resolved cell name v ∈ (performAll gives courses st).2.past) :
    .resolved cell name v ∈ st.past ∨ offer cell name := by
  induction courses generalizing st with
  | nil => exact .inl member
  | cons c rest ih => exact (ih (c.perform_sound sound) member).elim (c.mem_perform sound) .inr

end All

end Course

/-- Every cell is initialised once at most, in the course of its first resolution, and all of its
resolutions give the value of that run. -/
structure RunsOnce (past : List Happening) : Prop where
  single : ∀ cell, (past.filterMap (·.gave? cell)).length ≤ 1
  onDemand : ∀ before cell name v, before ++ [.initialised cell name v] <+: past →
    (∀ other w, .resolved cell other w ∉ before) ∧
      before ++ [.initialised cell name v] ++ [.resolved cell name v] <+: past
  shared : ∀ cell name v, .resolved cell name v ∈ past → ∃ other, .initialised cell other v ∈ past

theorem Once.runsOnce {past : List Happening} (once : Once past) : RunsOnce past where
  single cell := by
    rw [once.filterMap_gave?]
    exact Option.length_toList_le
  onDemand _ _ _ _ reached := once.resolved_of_initialised reached
  shared _ _ _ member := exists_initialised (once.held?_of_resolved member)

variable [HostObjects]

namespace Course

variable {offer : Nat → String → Prop}

/-- The course is one of the evaluation of a program in a scope. -/
def Follows (e : Program × Scope) (c : Course offer Value) : Prop :=
  ∀ values, c.under values = e.1.eval (e.2.supplied values)

theorem exists_follows (evaluations : List (Program × Scope))
    (offered : ∀ e ∈ evaluations, e.2.OnOffer offer) :
    ∃ courses : List (Course offer Value), List.Forall₂ Follows evaluations courses := by
  induction evaluations with
  | nil => exact ⟨[], .nil⟩
  | cons e rest ih =>
    obtain ⟨here, there⟩ := List.forall_mem_cons.mp offered
    obtain ⟨c, follows⟩ := e.1.eval_inTurn here
    obtain ⟨courses, others⟩ := ih there
    exact ⟨c :: courses, .cons follows others⟩

theorem map_under_of_follows {evaluations : List (Program × Scope)}
    {courses : List (Course offer Value)} (follow : List.Forall₂ Follows evaluations courses)
    (values : Nat → Value) :
    courses.map (under values) = evaluations.map fun e => e.1.eval (e.2.supplied values) := by
  induction follow with
  | nil => rfl
  | cons first _ ih => rw [List.map_cons, List.map_cons, first values, ih]

end Course

namespace Program

/-- Lazy bindings run once, whatever programs are evaluated in whatever scopes that share them. The
evaluations have courses, and when courses of them are performed one after the other in one session,
an initialiser runs once at most, not before the first resolution of a name that is bound to it, and
every resolution gives the value of that run. The results and the logs are those of evaluations in
scopes that are supplied with these values, and these are what the initialisers give where they give
the same at any time. A session that follows the logs reports the runs. -/
theorem lazy_bindings_run_once (evaluations : List (Program × Scope)) :
    let offer cell name := ∃ e ∈ evaluations, e.2.Defers cell name
    (∃ courses : List (Course offer Value), List.Forall₂ Course.Follows evaluations courses) ∧
    ∀ (courses : List (Course offer Value)) (gives : Course.Initialisers),
      List.Forall₂ Course.Follows evaluations courses →
      let (results, last) := Course.performAll gives courses {}
      RunsOnce last.past ∧
      (∀ cell name v, .resolved cell name v ∈ last.past → offer cell name) ∧
      (∃ values, Agrees values last.past) ∧
      (∀ values, Agrees values last.past →
        results = evaluations.map (fun e => (e.1.eval (e.2.supplied values)).value) ∧
        events last.past = evaluations.flatMap fun e => (e.1.eval (e.2.supplied values)).log) ∧
      (∀ values, (∀ cell past, gives cell past = values cell) → Agrees values last.past) ∧
      ({} : Session).follow (events last.past) =
        (last.session, last.past.filterMap Happening.report?) := by
  intro offer
  refine ⟨Course.exists_follows evaluations fun e member cell name defers =>
    ⟨e, member, defers⟩, fun courses gives follow => ?_⟩
  have start := Stage.sound_start
  have sound : (Course.performAll gives courses {}).2.Sound := Course.performAll_sound courses start
  refine ⟨sound.once.runsOnce, fun cell name v member => ?_, exists_agrees _,
    fun values agrees => ?_, fun values same => ?_, sound.followed⟩
  · exact (Course.mem_performAll courses start member).resolve_left fun earlier => nomatch earlier
  · obtain ⟨results, log⟩ := Course.performAll_eq_under courses start agrees
    have runs := Course.map_under_of_follows follow values
    constructor
    · have values := congrArg (List.map Run.value) runs
      rw [List.map_map, List.map_map] at values
      exact results.trans values
    · have logs := congrArg (List.flatMap Run.log) runs
      rw [List.flatMap_map, List.flatMap_map] at logs
      exact log.trans logs
  · exact Course.performAll_agrees courses start same fun cell v holds => nomatch holds

end Program

end ExprEngine
