import ExprEngine.Plan.Bounds
import ExprEngine.Proofs.Cost.Work
import ExprEngine.Proofs.Planning.Made
import ExprEngine.Proofs.Value.Entries

/-!
# Work of plans

The cost of a plan admits the work of its evaluation in every scope where no names are marked, if
its calls cost one unit at least and no attribute with branches is resolved in all of them.
`eval_admitted` proves it with one case for each form of a plan. A loop needs that the size hint of
its range is the number of elements that are iterated.
-/

namespace ExprEngine

namespace Overload

structure Priced (o : Overload) : Prop where
  least : ∀ sizes, (o.callCost sizes).min ≤ 1
  most : ∀ sizes, 1 ≤ (o.callCost sizes).max

end Overload

namespace Plan

/-- Calls reach priced overloads only, and no attribute with branches is resolved in all of them. -/
def pricing : Demand where
  calls overloads := ∀ o ∈ overloads, o.Priced
  names _ _ _ := True
  wraps p := p.forks = false

/-! ### Sizes -/

theorem elements?_of_isFailure {v : Value} (failed : v.isFailure = true) : v.elements? = none := by
  cases v <;> first | rfl | simp [Value.isFailure] at failed

theorem elements?_of_strict {vs : List Value} {result : Value} {elements : List Value}
    (iterable : (Value.strict vs result).elements? = some elements) :
    result.elements? = some elements := by
  rw [Value.strict] at iterable
  cases passed : Value.propagate vs with
  | none => rwa [passed] at iterable
  | some v =>
    have failed := elements?_of_isFailure (Value.isFailure_of_propagate passed)
    rw [passed, Option.getD_some, failed] at iterable
    cases iterable

theorem length_of_readKeys {entries : List (Value × Value)} {keyed : List (Key × Value)}
    (read : Value.readKeys entries = .ok keyed) : keyed.length = entries.length := by
  induction entries generalizing keyed with
  | nil =>
    obtain rfl := Except.ok.inj read
    rfl
  | cons e rest ih =>
    rw [Value.readKeys] at read
    split at read
    · cases others : Value.readKeys rest with
      | error k => simp [others, Except.map] at read
      | ok more =>
        simp only [others, Except.map, Except.ok.injEq] at read
        rw [← read, List.length_cons, List.length_cons, ih others]
    · cases read

theorem length_of_mapOf {entries : List (Value × Value)} {elements : List Value} {id : Int}
    (iterable : ((Value.mapOf entries).withExprId id).elements? = some elements) :
    elements.length = entries.length := by
  unfold Value.mapOf at iterable
  split at iterable
  · cases iterable
  · next keyed read =>
    split at iterable
    · cases iterable
    · next m entered =>
      obtain rfl := Option.some.inj iterable
      rw [List.length_map, ← Entries.keys_toList, List.length_map,
        Entries.ofList_eq_ok_iff.mp entered, length_of_readKeys read]

section

variable [HostObjects]

theorem length_of_sizeHint {provider : Provider} {p : Plan} {everything : Bool} {scope : Scope}
    {n : Nat} {elements : List Value} (known : p.sizeHint? = some n)
    (iterable : (eval provider p everything scope).value.elements? = some elements) :
    elements.length = n := by
  match p with
  | const _ (.list items) =>
    obtain rfl := Option.some.inj known
    obtain rfl := Option.some.inj iterable
    rfl
  | const _ (.map entries) =>
    obtain rfl := Option.some.inj known
    obtain rfl := Option.some.inj iterable
    exact List.length_map ..
  | const _ (.string _) | const _ (.bytes _) => cases iterable
  | list _ ps =>
    obtain rfl := Option.some.inj known
    rw [value_list] at iterable
    have items := elements?_of_strict iterable
    obtain rfl := Option.some.inj items
    exact List.length_map ..
  | mapping _ entries =>
    obtain rfl := Option.some.inj known
    rw [value_mapping] at iterable
    have keyed := elements?_of_strict iterable
    rw [length_of_mapOf keyed, List.length_map]
  | exhaustive inner =>
    rw [sizeHint?] at known
    rw [eval] at iterable
    exact length_of_sizeHint known iterable
  | observed inner =>
    rw [sizeHint?] at known
    rw [value_observed] at iterable
    exact length_of_sizeHint known iterable

end

/-! ### The bound -/

theorem callCost_admits {overloads : List Overload} (priced : ∀ o ∈ overloads, o.Priced)
    (sizes : List (Option Nat)) {n : Nat} (once : n ≤ 1) : (callCost overloads sizes).Admits n := by
  unfold callCost
  cases overloads with
  | nil => exact Cost.admits_of_le once
  | cons o rest =>
    have first := (priced o List.mem_cons_self).most sizes
    have admits : (o.callCost sizes).Admits n := Cost.admits_of_le (Nat.le_trans once first)
    exact admits.anyOf List.mem_cons_self _

theorem shortCircuit_admitted {left right : Run Value} {l r : Cost} (first : l.Admits left.work)
    (second : r.Admits right.work) (everything : Bool) (decides : Value → Bool)
    (combine : Value → Value → Value) :
    (if everything then l + r + .one else shortCircuitCost l r).Admits (do
      let v ← left
      if !everything && decides v then return v
      let w ← right
      return combine v w : Run Value).work := by
  have both := first.add second
  cases everything with
  | true =>
    have total := both.add (Cost.admits_zero .one)
    simpa only [Bool.not_true, Bool.false_and, Bool.false_eq_true, ↓reduceIte, Run.work_bind,
      Run.work_pure, Nat.add_zero] using total
  | false =>
    have total : (shortCircuitCost l r).Admits (left.work + right.work) :=
      Nat.le_trans both (Cost.clamp_mono (Nat.le_succ _))
    refine total.mono ?_
    simp only [Run.work_bind, apply_ite Run.work, Run.work_pure]
    split <;> omega

section

variable [HostObjects]

def costOf (everything : Bool) (p : Plan) : Cost :=
  if everything then (exhaustive p).cost else p.cost

theorem attributeCost_ambiguous (provider : Provider) (id : Int) (names : List String)
    (qs : List Qualifier) :
    attributeCost (.ambiguous id names qs) =
      Variable.uncheckedCost id names ((steps provider qs).map Step.label)
        (qualifierCosts qs) := by
  rw [labels_steps]
  rfl

section

open Run (work_bind work_pure work_reach work_emit)

variable (provider : Provider)

mutual

/-- Exhaustive or not, an evaluation does no more work than the cost admits. -/
theorem eval_admitted (p : Plan) {bound : List String} (priced : p.Made pricing bound)
    {scope : Scope} (unmarked : scope.patterns = []) (everything : Bool)
    (single : everything = true → p.forks = false) :
    (p.costOf everything).Admits (eval provider p everything scope).work := by
  -- Exhaustion makes a difference to the cost of operators that may stop early, and to no other.
  have plain : (∀ e, (exhaustive p).cost = e → p.cost = e) → p.costOf everything = p.cost := by
    intro same
    cases everything with
    | true => exact (same _ rfl).symm
    | false => rfl
  match p with
  | const id v => exact Cost.admits_zero _
  | attr id a =>
    rw [plain fun _ same => same, eval, work_bind, work_reach, Nat.zero_add, cost]
    exact resolve_admitted a priced unmarked everything single
  | both id l r | either id l r =>
    have left := eval_admitted l priced.1 unmarked false nofun
    have right := eval_admitted r priced.2 unmarked false nofun
    exact shortCircuit_admitted left right everything _ _
  | conditional id g t f =>
    have guard := eval_admitted g priced.1 unmarked false nofun
    have whenTrue := eval_admitted t priced.2.1 unmarked false nofun
    have whenFalse := eval_admitted f priced.2.2 unmarked false nofun
    cases everything with
    | false =>
      rw [eval, work_bind, work_reach, Nat.zero_add, work_bind]
      refine guard.add ?_
      rw [if_neg Bool.false_ne_true]
      split
      · exact whenTrue.either_left _
      · exact whenFalse.either_right _
      · exact Cost.admits_zero _
    | true =>
      have total := (guard.add whenTrue).add whenFalse
      rw [Nat.add_assoc] at total
      simp only [eval, work_bind, work_reach, Nat.zero_add, ↓reduceIte, work_pure, Nat.add_zero]
      exact total
  | call id function args overloads =>
    have parts := evalAll_admitted args priced.2 unmarked
    rw [plain fun _ same => same]
    simp only [eval, work_bind, work_reach, Nat.zero_add]
    refine parts.add (callCost_admits priced.1 _ ?_)
    split
    · exact Nat.zero_le 1
    · rw [work_bind, work_pure]
      exact work_dispatch_le ..
  | list id elements =>
    have parts := evalAll_admitted elements priced unmarked
    rw [plain fun _ same => same]
    simp only [eval, work_bind, work_reach, Nat.zero_add, work_pure, Nat.add_zero]
    exact parts
  | mapping id entries =>
    have parts := evalEntries_admitted entries priced unmarked
    rw [plain fun _ same => same]
    simp only [eval, work_bind, work_reach, Nat.zero_add, work_pure, Nat.add_zero]
    exact parts
  | object id typeName fields =>
    have parts := evalFields_admitted fields priced unmarked
    rw [plain fun _ same => same, eval, work_bind, work_reach, Nat.zero_add, work_bind]
    split
    · exact parts
    · exact parts
  | presence id operand field access =>
    have part := eval_admitted operand priced unmarked false nofun
    rw [plain fun _ same => same, eval, work_bind, work_reach, Nat.zero_add, work_bind]
    exact part.add (Cost.admits_of_le (Nat.le_refl 1))
  | loop id iterVar range accuVar init condition step result =>
    obtain ⟨rangePriced, initPriced, conditionPriced, stepPriced, resultPriced⟩ := priced
    have ranged := eval_admitted range rangePriced unmarked false nofun
    have started := eval_admitted init initPriced unmarked false nofun
    have inner : ∀ {s : Scope}, s.patterns = [] →
        (condition.cost + step.cost).Admits
          ((eval provider condition false s).work + (eval provider step false s).work) :=
      fun unmarked => (eval_admitted condition conditionPriced unmarked false nofun).add
        (eval_admitted step stepPriced unmarked false nofun)
    have ended : ∀ accu, (result.costOf false).Admits
        (eval provider result false (.frame scope accuVar accu)).work := by
      intro accu
      have outside : (Scope.frame scope accuVar accu).patterns = [] := unmarked
      exact eval_admitted result resultPriced outside false nofun
    rw [plain fun _ same => same, eval, work_bind, work_reach, Nat.zero_add, work_bind, cost]
    split
    · exact ((ranged.add (Cost.admits_zero _)).add (Cost.admits_zero _)).add (Cost.admits_zero _)
    · split
      · exact ((ranged.add (Cost.admits_zero _)).add (Cost.admits_zero _)).add (Cost.admits_zero _)
      · next elements iterable =>
        have iterations : ∀ start, ((condition.cost + step.cost).repeated range.sizeHint?).Admits
            (iterate everything
              (fun accu x => eval provider condition false (inside scope accuVar iterVar accu x))
              (fun accu x => eval provider step false (inside scope accuVar iterVar accu x))
              elements start).work :=
          iterate_admitted (fun accu x _ => inner unmarked)
            fun k known => Nat.le_of_eq (length_of_sizeHint known iterable)
        simp only [work_bind, ← Nat.add_assoc]
        refine ((ranged.add started).add (iterations _)).add ?_
        split
        · exact ended _
        · exact Cost.admits_zero _
  | membership id element items keys function overloads =>
    have part := eval_admitted element priced.2 unmarked false nofun
    rw [plain fun _ same => same, eval, work_bind, work_reach, Nat.zero_add, work_bind]
    refine part.add (Cost.admits_of_le ?_)
    split
    · exact Nat.zero_le 1
    · split
      · exact Nat.le_refl 1
      · rw [work_bind, work_pure]
        exact work_dispatch_le ..
  | search id text source pattern function overloads =>
    have part := eval_admitted text priced.2 unmarked false nofun
    rw [plain fun _ same => same, eval, work_bind, work_reach, Nat.zero_add, work_bind]
    refine part.add (callCost_admits priced.1 _ ?_)
    split
    · exact Nat.le_refl 1
    · split
      · exact Nat.zero_le 1
      · rw [work_bind, work_pure]
        exact work_dispatch_le ..
  | exhaustive inner =>
    have within := eval_admitted inner priced.2 unmarked true fun _ => priced.1
    rw [plain fun _ same => same, eval]
    exact within
  | observed inner =>
    have within := eval_admitted inner priced unmarked false nofun
    rw [plain fun _ same => same]
    simp only [eval, work_bind, Scope.work_record, work_pure, Nat.add_zero]
    exact within

theorem evalAll_admitted (ps : List Plan) {bound : List String}
    (priced : MadeAll pricing ps bound) {scope : Scope} (unmarked : scope.patterns = []) :
    (Cost.sum (costs ps)).Admits (evalAll provider ps scope).work := by
  match ps with
  | [] => exact Cost.admits_zero _
  | p :: rest =>
    have first := eval_admitted p priced.1 unmarked false nofun
    have others := evalAll_admitted rest priced.2 unmarked
    simp only [evalAll, work_bind, work_pure, Nat.add_zero]
    exact first.sum_cons others

theorem evalEntries_admitted (entries : List (Plan × Plan)) {bound : List String}
    (priced : MadeKeyed pricing entries bound) {scope : Scope} (unmarked : scope.patterns = []) :
    (Cost.sum (entryCosts entries)).Admits (evalEntries provider entries scope).work := by
  match entries with
  | [] => exact Cost.admits_zero _
  | (k, v) :: rest =>
    have key := eval_admitted k priced.1 unmarked false nofun
    have value := eval_admitted v priced.2.1 unmarked false nofun
    have others := evalEntries_admitted rest priced.2.2 unmarked
    simp only [evalEntries, work_bind, work_pure, Nat.add_zero, ← Nat.add_assoc]
    exact (key.add value).sum_cons others

theorem evalFields_admitted (fields : List (String × Plan)) {bound : List String}
    (priced : MadeFields pricing fields bound) {scope : Scope} (unmarked : scope.patterns = []) :
    (Cost.sum (fieldCosts fields)).Admits (evalFields provider fields scope).work := by
  match fields with
  | [] => exact Cost.admits_zero _
  | (name, v) :: rest =>
    have value := eval_admitted v priced.1 unmarked false nofun
    have others := evalFields_admitted rest priced.2 unmarked
    simp only [evalFields, work_bind, work_pure, Nat.add_zero]
    exact value.sum_cons others

theorem resolve_admitted (a : Attribute) {bound : List String}
    (priced : MadeAttribute pricing a bound) {scope : Scope} (unmarked : scope.patterns = [])
    (everything : Bool) (single : everything = true → a.forks = false) :
    (attributeCost a).Admits (resolve provider a everything scope).work := by
  match a with
  | .absolute id isLocal names qs =>
    rw [resolve, attributeCost]
    exact Variable.resolve_admitted unmarked provider (steps_admitted qs priced.2)
  | .ambiguous id names qs =>
    rw [resolve, attributeCost_ambiguous provider]
    exact Variable.resolveUnchecked_admitted unmarked provider (steps_admitted qs priced.2)
  | .relative id operand qs =>
    have part := eval_admitted operand priced.1 unmarked false nofun
    have walked := Step.walk_admitted (steps_admitted qs priced.2) unmarked
      (eval provider operand false scope).value
    rw [resolve, attributeCost, work_bind]
    exact part.add walked
  | .conditional id g t f =>
    have guard := eval_admitted g priced.1 unmarked false nofun
    have whenTrue := resolve_admitted t priced.2.1 unmarked false nofun
    have whenFalse := resolve_admitted f priced.2.2 unmarked false nofun
    cases everything with
    -- Both branches are resolved then, and the cost counts only one of them.
    | true => cases single rfl
    | false =>
      rw [resolve, attributeCost, work_bind]
      refine guard.add ?_
      rw [if_neg Bool.false_ne_true]
      split
      · exact whenTrue.either_left _
      · exact whenFalse.either_right _
      · exact Cost.admits_zero _

theorem steps_admitted (qs : List Qualifier) {bound : List String}
    (priced : MadeQualifiers pricing qs bound) :
    List.Forall₂ Step.Admitted (qualifierCosts qs) (steps provider qs) := by
  match qs with
  | [] => exact .nil
  | .field id name access :: rest =>
    exact .cons (fun _ _ _ => Cost.admits_of_le (Nat.le_refl 1)) (steps_admitted rest priced)
  | .constant id key :: rest =>
    exact .cons (fun _ _ _ => Cost.admits_of_le (Nat.le_refl 1)) (steps_admitted rest priced)
  | .computed id key :: rest =>
    refine .cons (fun s unmarked v => ?_) (steps_admitted rest priced.2)
    have part : (key.costOf false).Admits (eval provider key false s).work :=
      eval_admitted key priced.1 unmarked false nofun
    have one : Cost.one.Admits 1 := Cost.admits_of_le (Nat.le_refl 1)
    simp only [work_bind, work_pure, Nat.add_zero]
    exact part.add one

end

end

end

/-! ### The scale -/

theorem max_cost_le (p : Plan) : p.cost.max ≤ Cost.unbounded := by
  match p with
  | const .. => exact Nat.zero_le _
  | attr _ (.absolute ..) | list .. | mapping .. | object .. => exact Cost.max_sum_le _
  | attr _ (.ambiguous id names qs) =>
    refine Cost.max_anyOf_le (fun c member => ?_) (Nat.zero_le _)
    obtain ⟨i, -, rfl⟩ := List.mem_map.mp member
    exact Cost.max_sum_le _
  | both .. | either .. => exact Cost.clamp_le_unbounded _
  | attr _ (.relative ..) | attr _ (.conditional ..) | conditional .. | call .. | presence .. |
    loop .. | membership .. | search .. => exact Cost.max_add_le ..
  | exhaustive inner =>
    have within := max_cost_le inner
    cases inner <;> first | exact within | exact Cost.max_add_le ..
  | observed inner =>
    rw [cost]
    exact max_cost_le inner

end Plan

end ExprEngine
