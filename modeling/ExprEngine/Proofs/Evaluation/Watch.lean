import ExprEngine.Proofs.Evaluation.Logs

/-!
# Watched evaluations

A watch is a condition on logs that also follows which nodes are reached and recorded. Between
the event that a node is reached and the record of its value, the node is pending. `Watched` asks
of the parts of a plan what the watch needs to know about them, and `eval_watched` concludes that
the log of an evaluation meets the condition.
-/

namespace ExprEngine

structure Watch where
  /-- The scopes that plans are evaluated in. -/
  scopes : Scope → Prop
  logs : List Event → Prop
  /-- Logs that meet the condition once the node of that id is recorded. -/
  pending : Int → List Event → Prop
  /-- The ids of nodes that need no record. -/
  loose : Int → Prop
  /-- The plans whose values are recorded. -/
  seen : Plan → Prop
  /-- Whether plans have loops. -/
  loops : Prop

namespace Watch

variable [HostObjects]

structure Sound (k : Watch) (provider : Provider) : Prop extends Accumulates k.logs where
  dispatched : ∀ function candidates args, k.logs (dispatch function candidates args).log
  constructed : ∀ typeName fields, Value.propagate (fields.map Prod.snd) = none →
    k.logs [.constructed typeName fields]
  begins : ∀ id, k.pending id [.reached id]
  continues : ∀ {id first rest}, k.pending id first → k.logs rest → k.pending id (first ++ rest)
  weakens : ∀ {id log}, k.logs log → k.pending id log
  settles : ∀ {id log}, k.loose id → k.pending id log → k.logs log
  records : ∀ {q scope}, k.seen q → k.scopes scope →
    k.pending q.id (q.eval provider false scope).log →
    k.logs ((q.eval provider false scope).log ++
      (scope.record q.id (q.eval provider false scope).value).log)
  frames : k.loops → ∀ {scope} name v, k.scopes scope → k.scopes (.frame scope name v)

structure Always (k : Watch) : Prop where
  loose : ∀ id, k.loose id
  seen : ∀ p, k.seen p
  loops : k.loops

/-- A node that is reached is recorded from outside, or needs no record. -/
def Settled (k : Watch) (id : Int) (wrapped : Bool) : Prop := wrapped = true ∨ k.loose id

/-- The logs of a node, before its record if that is made from outside. -/
def Admits (k : Watch) (id : Int) (wrapped : Bool) (log : List Event) : Prop :=
  if wrapped then k.pending id log else k.logs log

variable {k : Watch} {provider : Provider} {id : Int} {wrapped : Bool} {log : List Event}

theorem Sound.admits (sound : k.Sound provider) (settled : k.Settled id wrapped)
    (pending : k.pending id log) : k.Admits id wrapped log := by
  cases wrapped with
  | true => exact pending
  | false => exact sound.settles (settled.resolve_left Bool.false_ne_true) pending

theorem Sound.node (sound : k.Sound provider) (settled : k.Settled id wrapped) {α : Type}
    {r : Run α} (rest : k.logs r.log) :
    k.Admits id wrapped (do Run.reach id; r : Run α).log :=
  sound.admits settled (sound.continues (sound.begins id) rest)

end Watch

namespace Plan

mutual

/-- What a watch needs to know about a plan; `wrapped` if the plan is recorded from outside. -/
def Watched (k : Watch) : Plan → Bool → Prop
  | const id _, wrapped => k.Settled id wrapped
  | attr id a, wrapped => k.Settled id wrapped ∧ WatchedAttribute k a
  | both id l r, wrapped | either id l r, wrapped =>
    k.Settled id wrapped ∧ Watched k l false ∧ Watched k r false
  | conditional id g t f, wrapped =>
    k.Settled id wrapped ∧ Watched k g false ∧ Watched k t false ∧ Watched k f false
  | call id _ parts _, wrapped | list id parts, wrapped =>
    k.Settled id wrapped ∧ WatchedAll k parts
  | mapping id entries, wrapped => k.Settled id wrapped ∧ WatchedKeyed k entries
  | object id _ fields, wrapped => k.Settled id wrapped ∧ WatchedFields k fields
  | presence id part _ _, wrapped | membership id part _ _ _ _, wrapped
  | search id part _ _ _ _, wrapped => k.Settled id wrapped ∧ Watched k part false
  | loop id _ range _ init condition step result, wrapped =>
    k.Settled id wrapped ∧ k.loops ∧ Watched k range false ∧ Watched k init false ∧
      Watched k condition false ∧ Watched k step false ∧ Watched k result false
  | exhaustive inner, wrapped => Watched k inner wrapped
  | observed inner, _ => k.seen inner ∧ Watched k inner true
termination_by structural p => p

def WatchedAll (k : Watch) : List Plan → Prop
  | [] => True
  | p :: rest => Watched k p false ∧ WatchedAll k rest
termination_by structural ps => ps

def WatchedKeyed (k : Watch) : List (Plan × Plan) → Prop
  | [] => True
  | (key, value) :: rest => Watched k key false ∧ Watched k value false ∧ WatchedKeyed k rest
termination_by structural entries => entries

def WatchedFields (k : Watch) : List (String × Plan) → Prop
  | [] => True
  | (_, value) :: rest => Watched k value false ∧ WatchedFields k rest
termination_by structural fields => fields

def WatchedAttribute (k : Watch) : Attribute → Prop
  | .absolute _ _ _ qs | .ambiguous _ _ qs => WatchedQualifiers k qs
  | .relative _ operand qs => Watched k operand false ∧ WatchedQualifiers k qs
  | .conditional _ g t f => Watched k g false ∧ WatchedAttribute k t ∧ WatchedAttribute k f
termination_by structural a => a

def WatchedQualifiers (k : Watch) : List Qualifier → Prop
  | [] => True
  | .field .. :: rest | .constant .. :: rest => WatchedQualifiers k rest
  | .computed _ key :: rest => Watched k key false ∧ WatchedQualifiers k rest
termination_by structural qs => qs

end

variable {k : Watch} {provider : Provider}

mutual

theorem watched_of_always (always : k.Always) (p : Plan) (wrapped : Bool) :
    p.Watched k wrapped := by
  match p with
  | const id _ => exact .inr (always.loose id)
  | attr id a => exact ⟨.inr (always.loose id), watchedAttribute_of_always always a⟩
  | both id l r | either id l r =>
    exact ⟨.inr (always.loose id), watched_of_always always l false,
      watched_of_always always r false⟩
  | conditional id g t f =>
    exact ⟨.inr (always.loose id), watched_of_always always g false,
      watched_of_always always t false, watched_of_always always f false⟩
  | call id _ parts _ | list id parts =>
    exact ⟨.inr (always.loose id), watchedAll_of_always always parts⟩
  | mapping id entries => exact ⟨.inr (always.loose id), watchedKeyed_of_always always entries⟩
  | object id _ fields => exact ⟨.inr (always.loose id), watchedFields_of_always always fields⟩
  | presence id part _ _ | membership id part _ _ _ _ | search id part _ _ _ _ =>
    exact ⟨.inr (always.loose id), watched_of_always always part false⟩
  | loop id _ range _ init condition step result =>
    exact ⟨.inr (always.loose id), always.loops, watched_of_always always range false,
      watched_of_always always init false, watched_of_always always condition false,
      watched_of_always always step false, watched_of_always always result false⟩
  | exhaustive inner => exact watched_of_always always inner wrapped
  | observed inner => exact ⟨always.seen inner, watched_of_always always inner true⟩

theorem watchedAll_of_always (always : k.Always) (ps : List Plan) : WatchedAll k ps := by
  match ps with
  | [] => exact trivial
  | p :: rest => exact ⟨watched_of_always always p false, watchedAll_of_always always rest⟩

theorem watchedKeyed_of_always (always : k.Always) (entries : List (Plan × Plan)) :
    WatchedKeyed k entries := by
  match entries with
  | [] => exact trivial
  | (key, value) :: rest =>
    exact ⟨watched_of_always always key false, watched_of_always always value false,
      watchedKeyed_of_always always rest⟩

theorem watchedFields_of_always (always : k.Always) (fields : List (String × Plan)) :
    WatchedFields k fields := by
  match fields with
  | [] => exact trivial
  | (_, value) :: rest =>
    exact ⟨watched_of_always always value false, watchedFields_of_always always rest⟩

theorem watchedAttribute_of_always (always : k.Always) (a : Attribute) : WatchedAttribute k a := by
  match a with
  | .absolute _ _ _ qs | .ambiguous _ _ qs => exact watchedQualifiers_of_always always qs
  | .relative _ operand qs =>
    exact ⟨watched_of_always always operand false, watchedQualifiers_of_always always qs⟩
  | .conditional _ g t f =>
    exact ⟨watched_of_always always g false, watchedAttribute_of_always always t,
      watchedAttribute_of_always always f⟩

theorem watchedQualifiers_of_always (always : k.Always) (qs : List Qualifier) :
    WatchedQualifiers k qs := by
  match qs with
  | [] => exact trivial
  | .field .. :: rest | .constant .. :: rest => exact watchedQualifiers_of_always always rest
  | .computed _ key :: rest =>
    exact ⟨watched_of_always always key false, watchedQualifiers_of_always always rest⟩

end

variable [HostObjects]

mutual

/-- The log of a watched plan meets the condition of the watch. -/
theorem eval_watched (sound : k.Sound provider) {p : Plan} {wrapped : Bool}
    (watched : p.Watched k wrapped) (everything : Bool) {scope : Scope}
    (inside : k.scopes scope) : k.Admits p.id wrapped (eval provider p everything scope).log := by
  match p with
  | const id v =>
    have watched : k.Settled id wrapped := watched
    exact sound.node watched sound.nil
  | attr id a => exact sound.node watched.1 (resolve_watched sound watched.2 everything inside)
  | both id l r | either id l r =>
    obtain ⟨settled, left, right⟩ := watched
    rw [eval]
    refine sound.node settled (sound.bind (eval_watched sound left false inside) ?_)
    split
    · exact sound.pure _
    · exact sound.bind (eval_watched sound right false inside) (sound.pure _)
  | conditional id g t f =>
    obtain ⟨settled, guard, whenTrue, whenFalse⟩ := watched
    have guard := eval_watched sound guard false inside
    have whenTrue := eval_watched sound whenTrue false inside
    have whenFalse := eval_watched sound whenFalse false inside
    rw [eval]
    refine sound.node settled (sound.bind guard ?_)
    split
    · exact sound.bind whenTrue (sound.bind whenFalse (sound.pure _))
    · split
      · exact whenTrue
      · exact whenFalse
      · exact sound.pure _
  | call id function args overloads =>
    have dispatched := sound.dispatched function overloads (evalAll provider args scope).value
    -- What a failing argument leaves is passed on before any overload is asked.
    have result : ∀ passed : Option Value, k.logs (match passed with
        | some v => pure v
        | none => do
          let v ← dispatch function overloads (evalAll provider args scope).value
          return v.withExprId id : Run Value).log := by
      intro passed
      cases passed with
      | some v => exact sound.pure v
      | none => exact sound.bind dispatched (sound.pure _)
    rw [eval]
    exact sound.node watched.1 (sound.bind (evalAll_watched sound watched.2 inside) (result _))
  | list id elements =>
    have elements := evalAll_watched sound watched.2 inside
    exact sound.node watched.1 (sound.bind elements (sound.pure _))
  | mapping id entries =>
    have entries := evalEntries_watched sound watched.2 inside
    exact sound.node watched.1 (sound.bind entries (sound.pure _))
  | object id typeName fields =>
    rw [eval]
    refine sound.node watched.1 (sound.bind (evalFields_watched sound watched.2 inside) ?_)
    split
    · exact sound.pure _
    · next passed => exact sound.bind (sound.constructed _ _ passed) (sound.pure _)
  | presence id operand field access =>
    have operand := eval_watched sound watched.2 false inside
    exact sound.node watched.1 (sound.bind operand (sound.bind (sound.plain _ rfl) (sound.pure _)))
  | loop id iterVar range accuVar init condition step result =>
    obtain ⟨settled, loops, ranged, started, conditioned, stepped, resulted⟩ := watched
    have framed (accu : Value) := sound.frames loops accuVar accu inside
    have conditions (accu x : Value) :=
      eval_watched sound conditioned false (sound.frames loops iterVar x (framed accu))
    have steps (accu x : Value) :=
      eval_watched sound stepped false (sound.frames loops iterVar x (framed accu))
    rw [eval]
    refine sound.node settled (sound.bind (eval_watched sound ranged false inside) ?_)
    split
    · exact sound.pure _
    · split
      · exact sound.pure _
      · refine sound.bind (eval_watched sound started false inside) ?_
        refine sound.bind (sound.iterate conditions steps _ _) ?_
        split
        · exact eval_watched sound resulted false (framed _)
        · exact sound.pure _
  | membership id element items keys function overloads =>
    rw [eval]
    refine sound.node watched.1 (sound.bind (eval_watched sound watched.2 false inside) ?_)
    split
    · exact sound.pure _
    · split
      · exact sound.bind (sound.plain _ rfl) (sound.pure _)
      · exact sound.bind (sound.dispatched function overloads _) (sound.pure _)
  | search id text source pattern function overloads =>
    rw [eval]
    refine sound.node watched.1 (sound.bind (eval_watched sound watched.2 false inside) ?_)
    split
    · exact sound.bind (sound.plain _ rfl) (sound.pure _)
    · split
      · exact sound.pure _
      · exact sound.bind (sound.dispatched function overloads _) (sound.pure _)
  | exhaustive inner => exact eval_watched (p := inner) sound watched true inside
  | observed inner =>
    have pending := eval_watched sound watched.2 false inside
    have recorded := sound.records watched.1 inside pending
    have logs : k.logs (eval provider (observed inner) everything scope).log := by
      simpa [eval] using recorded
    cases wrapped with
    | true => exact sound.weakens logs
    | false => exact logs

theorem evalAll_watched (sound : k.Sound provider) {ps : List Plan} (watched : WatchedAll k ps)
    {scope : Scope} (inside : k.scopes scope) : k.logs (evalAll provider ps scope).log := by
  match ps with
  | [] => exact sound.pure _
  | p :: rest =>
    have first := eval_watched sound watched.1 false inside
    have others := evalAll_watched sound watched.2 inside
    exact sound.bind first (sound.bind others (sound.pure _))

theorem evalEntries_watched (sound : k.Sound provider) {entries : List (Plan × Plan)}
    (watched : WatchedKeyed k entries) {scope : Scope} (inside : k.scopes scope) :
    k.logs (evalEntries provider entries scope).log := by
  match entries with
  | [] => exact sound.pure _
  | (key, value) :: rest =>
    have keyed := eval_watched sound watched.1 false inside
    have valued := eval_watched sound watched.2.1 false inside
    have others := evalEntries_watched sound watched.2.2 inside
    exact sound.bind keyed (sound.bind valued (sound.bind others (sound.pure _)))

theorem evalFields_watched (sound : k.Sound provider) {fields : List (String × Plan)}
    (watched : WatchedFields k fields) {scope : Scope} (inside : k.scopes scope) :
    k.logs (evalFields provider fields scope).log := by
  match fields with
  | [] => exact sound.pure _
  | (name, value) :: rest =>
    have first := eval_watched sound watched.1 false inside
    have others := evalFields_watched sound watched.2 inside
    exact sound.bind first (sound.bind others (sound.pure _))

theorem resolve_watched (sound : k.Sound provider) {a : Attribute} (watched : WatchedAttribute k a)
    (everything : Bool) {scope : Scope} (inside : k.scopes scope) :
    k.logs (resolve provider a everything scope).log := by
  match a with
  | .absolute id isLocal names qs =>
    exact sound.reference (x := ⟨id, isLocal, names, steps provider qs⟩)
      (steps_watched sound watched inside) provider
  | .ambiguous id names qs =>
    exact sound.uncheckedReference (steps_watched sound watched inside) id names provider
  | .relative id operand qs =>
    have steps := steps_watched sound watched.2 inside
    refine sound.bind (eval_watched sound watched.1 false inside) ?_
    exact sound.walk (fun s member => (steps s member).apply) _
  | .conditional id g t f =>
    obtain ⟨guard, whenTrue, whenFalse⟩ := watched
    rw [resolve]
    refine sound.bind (eval_watched sound guard false inside) ?_
    split
    · exact sound.bind (resolve_watched sound whenTrue true inside)
        (sound.bind (resolve_watched sound whenFalse true inside) (sound.pure _))
    · split
      · exact resolve_watched sound whenTrue false inside
      · exact resolve_watched sound whenFalse false inside
      · exact sound.pure _

theorem steps_watched (sound : k.Sound provider) {qs : List Qualifier}
    (watched : WatchedQualifiers k qs) {scope : Scope} (inside : k.scopes scope) :
    ∀ s ∈ steps provider qs, s.Logged k.logs scope := by
  match qs with
  | [] => exact fun _ member => nomatch member
  | .field id name access :: rest =>
    have others : WatchedQualifiers k rest := watched
    intro s member
    rcases List.mem_cons.mp member with rfl | member
    · exact ⟨sound.pure _, fun _ => sound.pure _⟩
    · exact steps_watched sound others inside s member
  | .constant id key :: rest =>
    have others : WatchedQualifiers k rest := watched
    intro s member
    rcases List.mem_cons.mp member with rfl | member
    · exact ⟨sound.pure _, fun _ => sound.pure _⟩
    · exact steps_watched sound others inside s member
  | .computed id key :: rest =>
    have keyed := eval_watched sound watched.1 false inside
    intro s member
    rcases List.mem_cons.mp member with rfl | member
    · exact ⟨keyed, fun _ => sound.bind keyed (sound.pure _)⟩
    · exact steps_watched sound watched.2 inside s member

end

end Plan

end ExprEngine
