import ExprEngine.Proofs.Evaluation.Watch
import ExprEngine.Proofs.Partial.Macros
import ExprEngine.Proofs.Planning.Optimization
import ExprEngine.Proofs.Planning.Specialized
import ExprEngine.Proofs.Recording.Places

/-!
# Plans of watched expressions

With state tracking, the plan of a node is recorded, unless a selection takes the node in.
`placed_of_outcome` says so of every node at once: if a watch is supplied at the places of an
expression, it can watch the plan of the expression.
-/

namespace ExprEngine

namespace Plan

variable {k : Watch} {p q : Plan} {wrapped : Bool}

/-! ### References -/

theorem watchedQualifiers_append {qs more : List Qualifier} (first : WatchedQualifiers k qs)
    (rest : WatchedQualifiers k more) : WatchedQualifiers k (qs ++ more) := by
  induction qs with
  | nil => exact rest
  | cons q others ih =>
    cases q with
    | field | constant => exact ih first
    | computed => exact ⟨first.1, ih first.2⟩

theorem watchedAttribute_qualify {a : Attribute} (watched : WatchedAttribute k a) {x : Qualifier}
    (step : WatchedQualifiers k [x]) : WatchedAttribute k (a.qualify x) := by
  cases a with
  | absolute | ambiguous => exact watchedQualifiers_append watched step
  | relative => exact ⟨watched.1, watchedQualifiers_append watched.2 step⟩
  | conditional =>
    obtain ⟨guard, whenTrue, whenFalse⟩ := watched
    exact ⟨guard, watchedAttribute_qualify whenTrue step, watchedAttribute_qualify whenFalse step⟩

theorem indexed_watched (id : Int) (settled : k.Settled id wrapped)
    (operand : WatchedAttribute k p.toAttribute) (key : q.Watched k false) :
    (p.indexed id q).Watched k wrapped := by
  unfold indexed
  split
  · exact ⟨settled, watchedAttribute_qualify operand trivial⟩
  · exact ⟨settled, watchedAttribute_qualify operand ⟨key, trivial⟩⟩

/-! ### Plans of single nodes -/

/-- A plan without wrappers that makes no choice. -/
def isSimple : Plan → Bool
  | conditional .. | exhaustive _ | observed _ => false
  | _ => true

theorem indexed_form (id : Int) (p q : Plan) :
    (p.indexed id q).isSimple = true ∧ (p.indexed id q).id = id := by
  unfold indexed
  split <;> exact ⟨rfl, rfl⟩

theorem prepareCall_watched (id : Int) (function : String) {args : List Plan}
    (overloads : List Overload) (settled : k.Settled id wrapped) (parts : WatchedAll k args) :
    (prepareCall id function args overloads).Watched k wrapped := by
  rcases prepareCall_cases id function args overloads with plain |
    ⟨-, operand, constant, rfl, ⟨items, keys, -, prepared⟩ | ⟨source, pattern, -, prepared⟩⟩
  · rw [plain]
    exact ⟨settled, parts⟩
  · rw [prepared]
    exact ⟨settled, parts.1⟩
  · rw [prepared]
    exact ⟨settled, parts.1⟩

theorem prepareCall_isSimple (id : Int) (function : String) (args : List Plan)
    (overloads : List Overload) : (prepareCall id function args overloads).isSimple = true := by
  rcases prepareCall_cases id function args overloads with plain |
    ⟨-, operand, constant, rfl, ⟨items, keys, -, prepared⟩ | ⟨source, pattern, -, prepared⟩⟩
  · rw [plain]
    rfl
  · rw [prepared]
    rfl
  · rw [prepared]
    rfl

theorem fold_simple [HostObjects] (provider : Provider) (simple : p.isSimple = true)
    (watched : p.Watched k true) :
    (p.fold provider).value.id = p.id ∧ (p.fold provider).value.isSimple = true ∧
      (p.fold provider).value.Watched k true := by
  rcases fold_cases provider p with ⟨branch, known, -⟩ | ⟨-, -, folded⟩ | ⟨-, -, folded⟩ |
    ⟨-, folded⟩
  · cases p with
    | conditional => cases simple
    | _ => cases known
  · rw [folded]
    exact ⟨rfl, rfl, .inl rfl⟩
  · rw [folded]
    exact ⟨rfl, simple, watched⟩
  · rw [folded]
    cases p with
    | call id function args overloads =>
      exact ⟨(prepareCall_form id function args overloads).2.1,
        prepareCall_isSimple id function args overloads,
        prepareCall_watched id function overloads watched.1 watched.2⟩
    | _ => exact ⟨rfl, simple, watched⟩

/-- A simple plan that a selection takes in needs no record. -/
theorem watchedAttribute_of_simple (simple : p.isSimple = true) (loose : k.loose p.id)
    (watched : p.Watched k true) : WatchedAttribute k p.toAttribute := by
  cases p with
  | attr => exact watched.2
  | conditional | exhaustive | observed => cases simple
  | const => exact ⟨.inr loose, trivial⟩
  | _ => exact ⟨⟨.inr loose, watched.2⟩, trivial⟩

/-- The plan of a node is watched by itself, or as the reference that takes it in. -/
def Placed (k : Watch) : Bool → Plan → Prop
  | true, p => WatchedAttribute k p.toAttribute
  | false, p => p.Watched k false

end Plan

structure Place.Supplied [HostObjects] (c : Planner) (k : Watch) (x : Place) : Prop where
  seen : x.taken = false → ∀ q, Planning.outcome (c.planExpr x.node x.locals) = .ok (.observed q) →
    q.id = x.node.id → k.seen q
  loose : x.taken = true → k.loose x.node.id
  loops : x.node.isLoop = true → k.loops

namespace Planner

open Planning

open Plan hiding id

structure Tracks (c : Planner) : Prop where
  trackState : c.options.trackState = true
  lazy : c.options.exhaustive = false

variable {c : Planner} {k : Watch} {e : Expr} {locals : List String} {p : Plan}

theorem Tracks.observes (tracks : c.Tracks) : c.options.observes = true := by
  simp [PlanOptions.observes, tracks.trackState]

theorem Tracks.decorate (tracks : c.Tracks) (bare : p.isObserved = false) :
    p.decorate c.options = .observed p := by
  simp [Plan.decorate, tracks.observes, tracks.lazy, bare]

theorem isObserved_of_isSimple (simple : p.isSimple = true) : p.isObserved = false := by
  cases p <;> first | rfl | cases simple

theorem takes_of_plain {function : String} (plain : operandCount? function = none) (taken : Bool) :
    takes function taken = [] := by
  unfold operandCount? at plain
  split at plain
  · cases plain
  · next other =>
    split at plain
    · cases plain
    · next others =>
      have index : function ≠ Operator.index := fun same => others (.inr (.inr same))
      rw [takes, if_neg index, if_neg other]

theorem identPlan_watched (c : Planner) (locals : List String) (id : Int) (name : String) :
    (c.identPlan locals id name).isSimple = true ∧ (c.identPlan locals id name).id = id ∧
      (c.identPlan locals id name).Watched k true := by
  unfold identPlan
  split
  · exact ⟨rfl, rfl, .inl rfl⟩
  · exact ⟨rfl, rfl, .inl rfl, trivial⟩
  · split <;> exact ⟨rfl, rfl, .inl rfl, trivial⟩

variable [HostObjects]

theorem finished_simple (tracks : c.Tracks) (simple : p.isSimple = true)
    (watched : p.Watched k true) :
    ∃ q, c.finished p = .observed q ∧ q.id = p.id ∧ q.isSimple = true ∧ q.Watched k true := by
  unfold finished
  split
  · obtain ⟨id, isSimple, isWatched⟩ := fold_simple c.provider simple watched
    exact ⟨_, tracks.decorate (isObserved_of_isSimple isSimple), id, isSimple, isWatched⟩
  · exact ⟨p, tracks.decorate (isObserved_of_isSimple simple), rfl, simple, watched⟩

theorem finished_placed (tracks : c.Tracks) {taken : Bool}
    (supplied : Place.Supplied c k ⟨e, locals, taken⟩) (simple : p.isSimple = true)
    (id : p.id = e.id) (watched : p.Watched k true)
    (planned : outcome (c.planExpr e locals) = .ok (c.finished p)) :
    Placed k taken (c.finished p) := by
  obtain ⟨q, finished, named, isSimple, isWatched⟩ := finished_simple tracks simple watched
  rw [finished] at planned ⊢
  have named : q.id = e.id := named.trans id
  cases taken with
  | true =>
    refine watchedAttribute_of_simple (p := q) isSimple ?_ isWatched
    rw [named]
    exact supplied.loose rfl
  | false => exact ⟨supplied.seen rfl q planned named, isWatched⟩

theorem finished_conditional_cases (tracks : c.Tracks) (id : Int) (o : Plan) {a b : Plan}
    (whenTrue : a.isObserved = true) (whenFalse : b.isObserved = true) :
    c.finished (.conditional id o a b) = a ∨ c.finished (.conditional id o a b) = b ∨
      c.finished (.conditional id o a b) = .observed (.conditional id o a b) := by
  unfold finished
  split
  · rcases fold_cases c.provider (.conditional id o a b) with ⟨branch, known, folded⟩ |
      ⟨-, foldable, -⟩ | ⟨-, foldable, -⟩ | ⟨-, folded⟩
    · rw [folded]
      rcases branch_of_known known with rfl | rfl
      · exact .inl (decorate_of_isObserved fun _ => whenTrue)
      · exact .inr (.inl (decorate_of_isObserved fun _ => whenFalse))
    · cases foldable
    · cases foldable
    · rw [folded]
      exact .inr (.inr (tracks.decorate rfl))
  · exact .inr (.inr (tracks.decorate rfl))

/-! ### Plans of expressions -/

def Keeps (c : Planner) (k : Watch) : Expr → List String → Plan → Plan → Prop :=
  fun e locals p _ => ∀ taken, (∀ x ∈ c.places e locals taken, x.Supplied c k) →
    outcome (c.planExpr e locals) = .ok p → Placed k taken p

/-- The plan beside itself, so that what is known of the parts comes with their plans. -/
abbrev KeepsPair (c : Planner) (k : Watch) : Expr → List String → Plan → Plan → Prop :=
  Pair c c (c.Keeps k)

theorem KeepsPair.kept {q : Plan} (pair : c.KeepsPair k e locals p q)
    (supplied : ∀ x ∈ c.places e locals false, x.Supplied c k) : p.Watched k false :=
  pair.related false supplied pair.left

theorem KeepsPair.taken {q : Plan} (pair : c.KeepsPair k e locals p q)
    (supplied : ∀ x ∈ c.places e locals true, x.Supplied c k) :
    WatchedAttribute k p.toAttribute :=
  pair.related true supplied pair.left

theorem KeepsPair.isObserved {q : Plan} (pair : c.KeepsPair k e locals p q) (tracks : c.Tracks) :
    p.isObserved = true :=
  isObserved_of_planned (planned_of_outcome c e locals pair.left) tracks.observes

theorem watchedAll_of_pairs {es : List Expr} {ps qs : List Plan}
    (pairs : PairAll c c (c.Keeps k) es locals ps qs)
    (supplied : ∀ x ∈ c.placesAll es locals [], x.Supplied c k) : WatchedAll k ps := by
  induction pairs with
  | nil => exact trivial
  | cons first _ ih =>
    have supplied := List.forall_mem_append.mp supplied
    exact ⟨KeepsPair.kept first supplied.1, ih supplied.2⟩

theorem watchedKeyed_of_pairs {entries : List Entry} {ps qs : List (Plan × Plan)}
    (pairs : PairKeyed c c (c.Keeps k) entries locals ps qs)
    (supplied : ∀ x ∈ c.placesIn entries locals, x.Supplied c k) : WatchedKeyed k ps := by
  induction pairs with
  | nil => exact trivial
  | cons keys values _ ih =>
    obtain ⟨keyed, supplied⟩ := List.forall_mem_append.mp supplied
    obtain ⟨valued, supplied⟩ := List.forall_mem_append.mp supplied
    exact ⟨KeepsPair.kept keys keyed, KeepsPair.kept values valued, ih supplied⟩

theorem watchedFields_of_pairs {entries : List Entry} {ps qs : List (String × Plan)}
    (pairs : PairFields c c (c.Keeps k) entries locals ps qs)
    (supplied : ∀ x ∈ c.placesIn entries locals, x.Supplied c k) : WatchedFields k ps := by
  induction pairs with
  | nil => exact trivial
  | cons values _ ih =>
    obtain ⟨valued, supplied⟩ := List.forall_mem_append.mp supplied
    exact ⟨KeepsPair.kept values valued, ih supplied⟩

theorem keeps_simulates (tracks : c.Tracks) : Simulates c c (c.Keeps k) where
  resolves _ := rfl
  finds _ := rfl
  names _ _ := rfl
  literal id v locals taken supplied planned :=
    finished_placed tracks (supplied _ List.mem_cons_self) rfl rfl (.inl rfl) planned
  ident id name locals taken supplied planned := by
    obtain ⟨simple, named, watched⟩ := identPlan_watched c locals id name
    exact finished_placed tracks (supplied _ List.mem_cons_self) simple named watched planned
  resolved id operand field locals _ taken supplied planned := by
    obtain ⟨simple, named, watched⟩ := identPlan_watched c locals id field
    exact finished_placed tracks (supplied _ List.mem_cons_self) simple named watched planned
  select id field operand _ _ _ unknown pair taken supplied planned := by
    obtain ⟨here, inside⟩ := List.forall_mem_cons.mp supplied
    rw [unknown] at inside
    -- The operand is taken in, so it is watched as what the selection refers to.
    have referent := watchedAttribute_qualify (KeepsPair.taken pair inside)
      (x := .field id field (c.fieldAccess operand.id field)) trivial
    exact finished_placed tracks here rfl rfl ⟨.inl rfl, referent⟩ planned
  presence id field _ _ _ _ pair taken supplied planned := by
    obtain ⟨here, inside⟩ := List.forall_mem_cons.mp supplied
    exact finished_placed tracks here rfl rfl ⟨.inl rfl, KeepsPair.kept pair inside⟩ planned
  both id _ _ _ _ _ _ _ left right taken supplied planned := by
    obtain ⟨here, inside⟩ := List.forall_mem_cons.mp supplied
    obtain ⟨first, inside⟩ := List.forall_mem_append.mp inside
    obtain ⟨second, -⟩ := List.forall_mem_append.mp inside
    exact finished_placed tracks here rfl rfl
      ⟨.inl rfl, KeepsPair.kept left first, KeepsPair.kept right second⟩ planned
  either id _ _ _ _ _ _ _ left right taken supplied planned := by
    obtain ⟨here, inside⟩ := List.forall_mem_cons.mp supplied
    obtain ⟨first, inside⟩ := List.forall_mem_append.mp inside
    obtain ⟨second, -⟩ := List.forall_mem_append.mp inside
    exact finished_placed tracks here rfl rfl
      ⟨.inl rfl, KeepsPair.kept left first, KeepsPair.kept right second⟩ planned
  index id _ _ _ _ _ _ _ operand key taken supplied planned := by
    obtain ⟨here, inside⟩ := List.forall_mem_cons.mp supplied
    obtain ⟨first, inside⟩ := List.forall_mem_append.mp inside
    obtain ⟨second, -⟩ := List.forall_mem_append.mp inside
    have settled : k.Settled id true := .inl rfl
    have watched := indexed_watched id settled (KeepsPair.taken operand first)
      (KeepsPair.kept key second)
    obtain ⟨simple, named⟩ := indexed_form id _ _
    exact finished_placed tracks here simple named watched planned
  conditional id _ _ _ _ _ _ _ _ _ _ guard whenTrue whenFalse taken supplied planned := by
    obtain ⟨here, inside⟩ := List.forall_mem_cons.mp supplied
    obtain ⟨guarded, inside⟩ := List.forall_mem_append.mp inside
    obtain ⟨first, inside⟩ := List.forall_mem_append.mp inside
    obtain ⟨second, -⟩ := List.forall_mem_append.mp inside
    have guard := KeepsPair.kept guard guarded
    have left := whenTrue.related taken first whenTrue.left
    have right := whenFalse.related taken second whenFalse.left
    rcases finished_conditional_cases tracks id _ (KeepsPair.isObserved whenTrue tracks)
      (KeepsPair.isObserved whenFalse tracks) with finished | finished | finished
    · rw [finished]
      exact left
    · rw [finished]
      exact right
    · rw [finished] at planned ⊢
      cases taken with
      | true => exact ⟨guard, left, right⟩
      | false => exact ⟨here.seen rfl _ planned rfl, .inl rfl, guard, left, right⟩
  call id function _ _ _ _ plain pairs taken supplied planned := by
    obtain ⟨here, inside⟩ := List.forall_mem_cons.mp supplied
    rw [takes_of_plain plain] at inside
    exact finished_placed tracks here rfl rfl ⟨.inl rfl, watchedAll_of_pairs pairs inside⟩ planned
  member id function _ _ _ _ _ _ _ _ target pairs taken supplied planned := by
    obtain ⟨here, inside⟩ := List.forall_mem_cons.mp supplied
    obtain ⟨targeted, inside⟩ := List.forall_mem_append.mp inside
    exact finished_placed tracks here rfl rfl
      ⟨.inl rfl, KeepsPair.kept target targeted, watchedAll_of_pairs pairs inside⟩ planned
  list id _ _ _ _ pairs taken supplied planned := by
    obtain ⟨here, inside⟩ := List.forall_mem_cons.mp supplied
    exact finished_placed tracks here rfl rfl ⟨.inl rfl, watchedAll_of_pairs pairs inside⟩ planned
  mapping id _ _ _ _ pairs taken supplied planned := by
    obtain ⟨here, inside⟩ := List.forall_mem_cons.mp supplied
    exact finished_placed tracks here rfl rfl ⟨.inl rfl, watchedKeyed_of_pairs pairs inside⟩ planned
  object id _ full _ _ _ _ _ pairs taken supplied planned := by
    obtain ⟨here, inside⟩ := List.forall_mem_cons.mp supplied
    exact finished_placed tracks here rfl rfl ⟨.inl rfl, watchedFields_of_pairs pairs inside⟩
      planned
  loop id iterVar accuVar _ _ _ _ _ _ _ _ _ _ _ _ _ _ _ _ range init condition step result taken
      supplied planned := by
    obtain ⟨here, inside⟩ := List.forall_mem_cons.mp supplied
    obtain ⟨ranged, inside⟩ := List.forall_mem_append.mp inside
    obtain ⟨started, inside⟩ := List.forall_mem_append.mp inside
    obtain ⟨conditioned, inside⟩ := List.forall_mem_append.mp inside
    obtain ⟨stepped, resulted⟩ := List.forall_mem_append.mp inside
    exact finished_placed tracks here rfl rfl
      ⟨.inl rfl, here.loops rfl, KeepsPair.kept range ranged, KeepsPair.kept init started,
        KeepsPair.kept condition conditioned, KeepsPair.kept step stepped,
        KeepsPair.kept result resulted⟩ planned

/-- A watch that is supplied at the places of an expression can watch its plan. -/
theorem placed_of_outcome (tracks : c.Tracks) (taken : Bool)
    (supplied : ∀ x ∈ c.places e locals taken, x.Supplied c k)
    (planned : outcome (c.planExpr e locals) = .ok p) : Placed k taken p := by
  have pairs := agree_of_simulates (keeps_simulates (k := k) tracks) e locals
  rw [planned] at pairs
  exact pairs.related.related taken supplied planned

end Planner

end ExprEngine
