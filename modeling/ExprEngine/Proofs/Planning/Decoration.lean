import ExprEngine.Proofs.Expr.Everywhere
import ExprEngine.Proofs.Planning.Wrapping

/-!
# Planning with wrappers

A planner whose options ask for wrappers makes the plans of the bare planner, wrapped. Folding
looks through the wrappers, and a branch that it chooses keeps those that it has. `Frees` says what
may be wrapped for exhaustive evaluation; loops are asked about one by one.
-/

namespace ExprEngine

namespace Plan

variable {free : Plan → Prop} {p q : Plan}

def isWrapper : Plan → Bool
  | exhaustive _ | observed _ => true
  | _ => false

/-! ### Folding -/

theorem Wraps.knownBranch? (wraps : Wraps free p q) (plain : p.isWrapper = false) :
    (p.knownBranch? = none ∧ q.knownBranch? = none) ∨
      ∃ b b', p.knownBranch? = some b ∧ q.knownBranch? = some b' ∧ Wraps free b b' := by
  cases wraps with
  | exhaustive => cases plain
  | observed => cases plain
  | @conditional id g g' t t' f f' guard whenTrue whenFalse =>
    simp only [Plan.knownBranch?, guard.asConst?_eq]
    rcases g'.asConst?.bind Value.asBool? with _ | b
    · exact .inl ⟨rfl, rfl⟩
    · cases b with
      | true => exact .inr ⟨t, t', rfl, rfl, whenTrue⟩
      | false => exact .inr ⟨f, f', rfl, rfl, whenFalse⟩
  | _ => exact .inl ⟨rfl, rfl⟩

theorem WrapsAll.all_isConst_eq {ps qs : List Plan} (wraps : WrapsAll free ps qs) :
    ps.all isConst = qs.all isConst := by
  cases wraps with
  | nil => rfl
  | cons first others => rw [List.all_cons, List.all_cons, first.isConst_eq, others.all_isConst_eq]

theorem WrapsKeyed.all_isConst_eq {ps qs : List (Plan × Plan)} (wraps : WrapsKeyed free ps qs) :
    (ps.all fun e => e.1.isConst && e.2.isConst) = qs.all fun e => e.1.isConst && e.2.isConst := by
  cases wraps with
  | nil => rfl
  | cons key value others =>
    rw [List.all_cons, List.all_cons, key.isConst_eq, value.isConst_eq, others.all_isConst_eq]

theorem Wraps.isFoldable_eq (wraps : Wraps free p q) (plain : p.isWrapper = false) :
    p.isFoldable = q.isFoldable := by
  cases wraps with
  | exhaustive => cases plain
  | observed => cases plain
  | both id left right | either id left right =>
    rw [isFoldable, isFoldable, left.isConst_eq, right.isConst_eq]
  | call id function overloads parts | list id parts =>
    rw [isFoldable, isFoldable, parts.all_isConst_eq]
  | mapping id entries => exact entries.all_isConst_eq
  | _ => rfl

theorem WrapsAll.prepareCall (id : Int) (function : String) (overloads : List Overload)
    {ps qs : List Plan} (args : WrapsAll free ps qs) :
    Wraps free (prepareCall id function ps overloads) (prepareCall id function qs overloads) := by
  have plain := Wraps.call id function overloads args
  unfold Plan.prepareCall
  split
  · exact plain
  · rcases args with _ | ⟨operand, _ | ⟨constant, _ | _⟩⟩
    · exact plain
    · exact plain
    · simp only [constant.asConst?_eq]
      split
      · split
        · split
          · exact .membership id _ _ function overloads operand
          · exact plain
        · exact plain
      · split
        · split
          · exact .search id _ _ function overloads operand
          · exact plain
        · exact plain
      · exact plain
    · exact plain

theorem Wraps.prepare (wraps : Wraps free p q) (plain : p.isWrapper = false) :
    Wraps free p.prepare q.prepare := by
  have unprepared := wraps
  cases wraps with
  | exhaustive => cases plain
  | observed => cases plain
  | call id function overloads args => exact args.prepareCall id function overloads
  | _ => exact unprepared

section

variable [HostObjects]

theorem Wraps.fold {provider : Provider} (indifferent : ∀ p, free p → p.Indifferent provider)
    (wraps : Wraps free p q) (plain : p.isWrapper = false) :
    Wraps free (p.fold provider).value (q.fold provider).value := by
  have value := (wraps.same indifferent).value .empty
  unfold Plan.fold
  rcases wraps.knownBranch? plain with ⟨left, right⟩ | ⟨b, b', left, right, branches⟩
  · simp only [left, right, ← wraps.isFoldable_eq plain]
    split
    · simp only [Run.value_bind, Run.value_pure, ← value, ← wraps.id_eq]
      split
      · exact wraps
      · exact .const p.id _
    · exact wraps.prepare plain
  · simp only [left, right]
    exact branches

theorem fold_mayStopEarly (provider : Provider)
    (stops : (p.fold provider).value.mayStopEarly = true) :
    (p.fold provider).value = p ∨
      ∃ branch, p.knownBranch? = some branch ∧ (p.fold provider).value = branch := by
  rcases fold_cases provider p with ⟨branch, known, folded⟩ | ⟨-, -, folded⟩ | ⟨-, -, folded⟩ |
    ⟨-, folded⟩
  · exact .inr ⟨branch, known, folded⟩
  · rw [folded] at stops
    cases stops
  · exact .inl folded
  · cases p with
    | call id function args overloads =>
      obtain ⟨-, -, -, runs⟩ := prepareCall_form id function args overloads
      rw [folded, Plan.prepare, runs] at stops
      cases stops
    | _ => exact .inl folded

end

theorem Wraps.decorate {options : PlanOptions} (wraps : Wraps free p q)
    (freed : options.exhaustive = true → p.mayStopEarly = true → free p) :
    Wraps free (p.decorate options) q := by
  have seen : ∀ r : Plan, Wraps free r q →
      Wraps free (if options.observes && !r.isObserved then .observed r else r) q := by
    intro r inner
    split
    · exact .observed inner
    · exact inner
  unfold Plan.decorate
  split
  · next forced =>
    obtain ⟨exhausts, stops⟩ := Bool.and_eq_true_iff.mp forced
    exact seen p.exhaustive (.exhaustive (freed exhausts stops) stops wraps)
  · exact seen p wraps

end Plan

namespace Planner

variable [HostObjects]

open Planning

open Plan hiding id

variable {c : Planner} {free : Plan → Prop} {kept : Prop} {p q : Plan}

def bare (c : Planner) : Planner :=
  { c with options := { optimize := c.options.optimize } }

theorem finished_wraps (indifferent : ∀ p, free p → p.Indifferent c.provider)
    (wraps : Wraps free p q) (plain : p.isWrapper = false)
    (branches : c.options.observes = true →
      ∀ branch, p.knownBranch? = some branch → branch.isObserved = true)
    (freed : c.options.exhaustive = true → p.mayStopEarly = true → free p) :
    Wraps free (c.finished p) (c.bare.finished q) := by
  have unwrapped : c.bare.finished q =
      if c.options.optimize then (q.fold c.provider).value else q := rfl
  rw [unwrapped]
  unfold finished
  split
  · refine (wraps.fold indifferent plain).decorate fun exhausts stops => ?_
    rcases fold_mayStopEarly c.provider stops with folded | ⟨branch, known, folded⟩
    · rw [folded] at stops ⊢
      exact freed exhausts stops
    · -- The branch is observed, so that it is not wrapped again.
      have observes : c.options.observes = true := by simp [PlanOptions.observes, exhausts]
      have seen := branches observes branch known
      rw [folded] at stops
      cases branch <;> simp [isObserved, mayStopEarly] at seen stops
  · exact wraps.decorate freed

/-- The final plans of an expression with and without wrappers. The wrappers need a condition to
be met. -/
structure Wrapped (c : Planner) (free : Plan → Prop) (kept : Prop) (p q : Plan) : Prop where
  observed : c.options.observes = true → p.isObserved = true
  wraps : kept → Wraps free p q

/-- What a planner may wrap for exhaustive evaluation. Loops have to meet a condition. -/
structure Frees (c : Planner) (free : Plan → Prop) (P : Expr → List String → Prop) : Prop where
  indifferent : ∀ p, free p → p.Indifferent c.provider
  single : c.options.exhaustive = true → ∀ p : Plan, p.isLoop = false → p.mayStopEarly = true →
    free p
  loop : c.options.exhaustive = true →
    ∀ id iterVar accuVar range init condition step result locals o i w s r,
      P (.loop id iterVar range accuVar init condition step result) locals →
      Planned c init locals i → Planned c condition (iterVar :: accuVar :: locals) w →
      Planned c step (iterVar :: accuVar :: locals) s →
      free (.loop id iterVar o accuVar i w s r)

namespace Frees

variable {P : Expr → List String → Prop} (frees : Frees c free P)

include frees

theorem finished (plain : p.isWrapper = false) (single : p.isLoop = false)
    (branches : c.options.observes = true →
      ∀ branch, p.knownBranch? = some branch → branch.isObserved = true)
    (wraps : kept → Wraps free p q) : Wrapped c free kept (c.finished p) (c.bare.finished q) :=
  ⟨fun observes => isObserved_decorate observes _, fun h =>
    finished_wraps frees.indifferent (wraps h) plain branches fun exhausts stops =>
      frees.single exhausts p single stops⟩

theorem finished_leaf (plain : p.isWrapper = false) (single : p.isLoop = false)
    (leaf : p.knownBranch? = none) (wraps : kept → Wraps free p q) :
    Wrapped c free kept (c.finished p) (c.bare.finished q) :=
  frees.finished plain single (fun _ _ known => by rw [leaf] at known; cases known) wraps

theorem finished_ident (locals : List String) (id : Int) (name : String) :
    Wrapped c free kept (c.finished (c.identPlan locals id name))
      (c.bare.finished (c.bare.identPlan locals id name)) := by
  have unwrapped : c.bare.identPlan locals id name = c.identPlan locals id name := rfl
  rw [unwrapped]
  unfold identPlan
  split
  · exact frees.finished_leaf rfl rfl rfl fun _ => .const id _
  · exact frees.finished_leaf rfl rfl rfl fun _ => .attr id (.absolute id _ _ .nil)
  · split
    · exact frees.finished_leaf rfl rfl rfl fun _ => .attr id (.absolute id _ _ .nil)
    · exact frees.finished_leaf rfl rfl rfl fun _ => .attr id (.ambiguous id _ .nil)

end Frees

section Pairs

variable {P : Expr → List String → Prop} {locals : List String}

abbrev WrappedPlans (c : Planner) (free : Plan → Prop) (P : Expr → List String → Prop) (e : Expr)
    (locals : List String) : Plan → Plan → Prop :=
  Wrapped c free (e.Everywhere P locals)

theorem wraps_of_pairs {es : List Expr} {ps qs : List Plan}
    (pairs : PairAll c c.bare (c.WrappedPlans free P) es locals ps qs)
    (kept : Expr.EverywhereAll P es locals) : WrapsAll free ps qs := by
  induction pairs with
  | nil => exact .nil
  | cons first _ ih => exact .cons (first.related.wraps kept.1) (ih kept.2)

theorem keyed_wraps_of_pairs {entries : List Entry} {ps qs : List (Plan × Plan)}
    (pairs : PairKeyed c c.bare (c.WrappedPlans free P) entries locals ps qs)
    (kept : Expr.EverywhereIn P entries locals) : WrapsKeyed free ps qs := by
  induction pairs with
  | nil => exact .nil
  | cons keys values _ ih =>
    exact .cons (keys.related.wraps kept.1) (values.related.wraps kept.2.1) (ih kept.2.2)

theorem field_wraps_of_pairs {entries : List Entry} {ps qs : List (String × Plan)}
    (pairs : PairFields c c.bare (c.WrappedPlans free P) entries locals ps qs)
    (kept : Expr.EverywhereIn P entries locals) : WrapsFields free ps qs := by
  induction pairs with
  | nil => exact .nil
  | cons values _ ih => exact .cons _ (values.related.wraps kept.1) (ih kept.2)

end Pairs

/-- A planner makes the plans of the bare planner, with wrappers. -/
theorem bare_simulates {P : Expr → List String → Prop} (frees : Frees c free P) :
    Simulates c c.bare (c.WrappedPlans free P) where
  resolves _ := rfl
  finds _ := rfl
  names _ _ := rfl
  literal id v locals := frees.finished_leaf rfl rfl rfl fun _ => .const id v
  ident id name locals := frees.finished_ident locals id name
  resolved id operand field locals _ := frees.finished_ident locals id field
  select id field _ _ _ _ _ pair :=
    frees.finished_leaf rfl rfl rfl fun h =>
      (pair.related.wraps h.2).qualify id (.field id field _ .nil)
  presence id field _ _ _ _ pair :=
    frees.finished_leaf rfl rfl rfl fun h => .presence id field _ (pair.related.wraps h.2)
  both id _ _ _ _ _ _ _ left right :=
    frees.finished_leaf rfl rfl rfl fun h =>
      .both id (left.related.wraps h.2.1) (right.related.wraps h.2.2.1)
  either id _ _ _ _ _ _ _ left right :=
    frees.finished_leaf rfl rfl rfl fun h =>
      .either id (left.related.wraps h.2.1) (right.related.wraps h.2.2.1)
  index id _ _ _ _ _ _ _ operand key :=
    frees.finished_leaf rfl rfl rfl fun h =>
      (operand.related.wraps h.2.1).indexed id (key.related.wraps h.2.2.1)
  conditional id _ _ _ _ _ _ _ _ _ _ guard whenTrue whenFalse := by
    refine frees.finished rfl rfl (fun observes branch known => ?_) fun h =>
      .conditional id (guard.related.wraps h.2.1) (whenTrue.related.wraps h.2.2.1)
        (whenFalse.related.wraps h.2.2.2.1)
    rcases branch_of_known known with rfl | rfl
    · exact whenTrue.related.observed observes
    · exact whenFalse.related.observed observes
  call id function _ _ _ _ _ pairs :=
    frees.finished_leaf rfl rfl rfl fun h => .call id function _ (wraps_of_pairs pairs h.2)
  member id function _ _ _ _ _ _ _ _ target pairs :=
    frees.finished_leaf rfl rfl rfl fun h =>
      .call id function _ (.cons (target.related.wraps h.2.1) (wraps_of_pairs pairs h.2.2))
  list id _ _ _ _ pairs :=
    frees.finished_leaf rfl rfl rfl fun h => .list id (wraps_of_pairs pairs h.2)
  mapping id _ _ _ _ pairs :=
    frees.finished_leaf rfl rfl rfl fun h => .mapping id (keyed_wraps_of_pairs pairs h.2)
  object id name full _ _ _ _ _ pairs :=
    frees.finished_leaf rfl rfl rfl fun h => .object id full (field_wraps_of_pairs pairs h.2)
  loop id iterVar accuVar range init condition step result locals _ _ _ _ _ _ _ _ _ _ ranges inits
      conditions steps results := by
    refine ⟨fun observes => isObserved_decorate observes _, fun h => ?_⟩
    refine finished_wraps frees.indifferent
      (.loop id iterVar accuVar (ranges.related.wraps h.2.1) (inits.related.wraps h.2.2.1)
        (conditions.related.wraps h.2.2.2.1) (steps.related.wraps h.2.2.2.2.1)
        (results.related.wraps h.2.2.2.2.2))
      rfl (fun _ _ known => by cases known) fun exhausts _ => ?_
    exact frees.loop exhausts id iterVar accuVar range init condition step result locals _ _ _ _ _
      h.1 (planned_of_outcome _ _ _ inits.left) (planned_of_outcome _ _ _ conditions.left)
      (planned_of_outcome _ _ _ steps.left)

end Planner

end ExprEngine
