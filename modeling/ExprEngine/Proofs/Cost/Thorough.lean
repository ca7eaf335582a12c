import ExprEngine.Proofs.Cost.Plans

/-!
# Thorough evaluations

The minimal cost of a plan counts on its operands: that they do not fail where a failure is
forgotten, and that a loop over a range of known size takes all elements. An evaluation is thorough
if it leaves out nothing of this. Then it does no less work than the minimal cost, provided that it
succeeds, as `eval_worth` says.
-/

namespace ExprEngine

namespace Value

theorem regular_of_strict {vs : List Value} {result : Value}
    (regular : (strict vs result).isFailure = false) :
    (∀ v ∈ vs, v.isFailure = false) ∧ result.isFailure = false := by
  unfold strict at regular
  cases passed : propagate vs with
  | some v =>
    have failed := isFailure_of_propagate passed
    rw [passed, Option.getD_some, failed] at regular
    cases regular
  | none =>
    rw [passed] at regular
    exact ⟨regular_of_propagate passed, regular⟩

theorem regular_of_testField [HostObjects] {id : Int} {v : Value} {field : String}
    {access : Option (String × FieldAccess)}
    (regular : (v.testField id field access).isFailure = false) : v.isFailure = false := by
  cases v with
  | error e => exact regular
  | unknown s => exact regular
  | _ => rfl

theorem regular_of_select {id : Int} {guard whenTrue whenFalse : Value}
    (regular : (select id guard whenTrue whenFalse).isFailure = false) :
    (guard = .bool true ∧ whenTrue.isFailure = false) ∨
      (guard = .bool false ∧ whenFalse.isFailure = false) := by
  unfold select at regular
  split at regular
  · exact .inl ⟨rfl, regular⟩
  · exact .inr ⟨rfl, regular⟩
  · unfold unguided at regular
    split at regular
    · next failed =>
      rw [failed] at regular
      cases regular
    · rw [isFailure_withExprId] at regular
      cases regular

end Value

theorem isError_of_iterate {everything : Bool} {condition step : Value → Value → Run Value}
    {elements : List Value} {accu e : Value}
    (ends : (iterate everything condition step elements accu).value = .error e) :
    e.isError = true := by
  induction elements generalizing accu with
  | nil => cases ends
  | cons x rest ih =>
    rw [value_iterate_cons] at ends
    split at ends
    · next failed =>
      obtain rfl := Except.error.inj ends
      exact failed
    · split at ends
      · cases ends
      · split at ends
        · next failed =>
          obtain rfl := Except.error.inj ends
          exact failed
        · exact ih ends

/-- Whether a loop takes all elements, with no failure on the way, and every iteration is as `sound`
says. -/
def takesAll (condition step : Value → Value → Run Value) (sound : Value → Value → Bool) :
    List Value → Value → Bool
  | [], _ => true
  | x :: rest, accu =>
    !(condition accu x).value.isFailure && !(condition accu x).value.decides false &&
      !(step accu x).value.isFailure && sound accu x &&
      takesAll condition step sound rest (step accu x).value

theorem work_iterate_ge {condition step : Value → Value → Run Value}
    {sound : Value → Value → Bool} {m : Nat}
    (each : ∀ accu x, (condition accu x).value.isFailure = false →
      (step accu x).value.isFailure = false → sound accu x = true →
        m ≤ (condition accu x).work + (step accu x).work)
    {elements : List Value} {accu : Value}
    (taken : takesAll condition step sound elements accu = true) :
    m * elements.length ≤ (iterate false condition step elements accu).work := by
  induction elements generalizing accu with
  | nil => exact Nat.zero_le _
  | cons x rest ih =>
    simp only [takesAll, Bool.and_eq_true, Bool.not_eq_true'] at taken
    obtain ⟨⟨⟨⟨checked, undecided⟩, stepped⟩, sound⟩, later⟩ := taken
    have here := each accu x checked stepped sound
    have rest := ih later
    have noError : ∀ {v : Value}, v.isFailure = false → ¬ v.isError = true := by
      intro v regular failed
      rw [Value.isFailure_of_isError failed] at regular
      cases regular
    rw [iterate, Run.work_bind, if_neg (noError checked)]
    simp only [undecided, Bool.not_false, Bool.true_and, Bool.false_eq_true, ↓reduceIte,
      Run.work_bind, if_neg (noError stepped), List.length_cons, Nat.mul_add, Nat.mul_one]
    omega

theorem iterate_worth {condition step : Value → Value → Run Value}
    {sound : Value → Value → Bool} {c d : Cost} {known : Option Nat} {elements : List Value}
    (counted : ∀ k, known = some k → elements.length = k)
    (each : ∀ accu x, (condition accu x).value.isFailure = false →
      (step accu x).value.isFailure = false → sound accu x = true →
        c.min ≤ (condition accu x).work ∧ d.min ≤ (step accu x).work) {accu : Value}
    (taken : (known.isNone || takesAll condition step sound elements accu) = true) :
    ((c + d).repeated known).min ≤ (iterate false condition step elements accu).work := by
  cases known with
  -- A loop over a range of unknown size counts none of its iterations.
  | none => exact Nat.zero_le _
  | some k =>
    have length := counted k rfl
    have least : ((c + d).repeated (some k)).min ≤ (c.min + d.min) * elements.length :=
      Cost.min_repeated_le (Cost.min_add_le c d)
        fun _ same => Nat.le_of_eq (length ▸ (Option.some.inj same).symm)
    refine Nat.le_trans least (work_iterate_ge (fun accu x checked stepped sound => ?_) taken)
    obtain ⟨first, second⟩ := each accu x checked stepped sound
    exact Nat.add_le_add first second

namespace Plan

theorem min_callCost_le {overloads : List Overload} (priced : ∀ o ∈ overloads, o.Priced)
    (sizes : List (Option Nat)) : (callCost overloads sizes).min ≤ 1 := by
  unfold callCost
  cases overloads with
  | nil => exact Nat.le_refl 1
  | cons o rest =>
    have first := (priced o List.mem_cons_self).least sizes
    exact Cost.min_anyOf_le List.mem_cons_self first _

variable [HostObjects]

mutual

/-- Whether an evaluation leaves out nothing that the minimal cost counts. Plans for exhaustive
evaluation count more than evaluations, and are left aside. -/
def thorough (provider : Provider) : Plan → Scope → Bool
  | const .., _ => true
  | attr _ a, scope => thoroughAttribute provider a scope
  | both _ l _, scope | either _ l _, scope =>
    thorough provider l scope && !(eval provider l false scope).value.isFailure
  | conditional _ g t f, scope =>
    thorough provider g scope &&
      match (eval provider g false scope).value with
      | .bool true => thorough provider t scope
      | .bool false => thorough provider f scope
      | _ => true
  | call _ _ args overloads, scope =>
    thoroughAll provider args scope &&
      (!overloads.any Overload.nonStrict ||
        (evalAll provider args scope).value.all fun v => !v.isFailure)
  | list _ elements, scope => thoroughAll provider elements scope
  | mapping _ entries, scope => thoroughKeyed provider entries scope
  | object _ _ fields, scope => thoroughFields provider fields scope
  | presence _ operand _ _, scope => thorough provider operand scope
  | loop _ iterVar range accuVar init condition step result, scope =>
    thorough provider range scope && thorough provider init scope &&
      match (eval provider range false scope).value.elements? with
      | none => true
      | some elements =>
        let start := (eval provider init false scope).value
        let conditions := fun accu x =>
          eval provider condition false (inside scope accuVar iterVar accu x)
        let steps := fun accu x => eval provider step false (inside scope accuVar iterVar accu x)
        !start.isFailure &&
          (range.sizeHint?.isNone || takesAll conditions steps (fun accu x =>
            thorough provider condition (inside scope accuVar iterVar accu x) &&
              thorough provider step (inside scope accuVar iterVar accu x)) elements start) &&
          match (iterate false conditions steps elements start).value with
          | .ok accu => thorough provider result (.frame scope accuVar accu)
          | .error _ => true
  | membership _ element _ _ _ _, scope => thorough provider element scope
  | search _ text _ _ _ _, scope => thorough provider text scope
  | exhaustive _, _ => false
  | observed inner, scope => thorough provider inner scope
termination_by structural p => p

def thoroughAll (provider : Provider) : List Plan → Scope → Bool
  | [], _ => true
  | p :: rest, scope => thorough provider p scope && thoroughAll provider rest scope
termination_by structural ps => ps

def thoroughKeyed (provider : Provider) : List (Plan × Plan) → Scope → Bool
  | [], _ => true
  | (k, v) :: rest, scope =>
    thorough provider k scope && thorough provider v scope && thoroughKeyed provider rest scope
termination_by structural entries => entries

def thoroughFields (provider : Provider) : List (String × Plan) → Scope → Bool
  | [], _ => true
  | (_, v) :: rest, scope => thorough provider v scope && thoroughFields provider rest scope
termination_by structural fields => fields

def thoroughAttribute (provider : Provider) : Attribute → Scope → Bool
  | .absolute _ _ _ qs, scope | .ambiguous _ _ qs, scope => thoroughQualifiers provider qs scope
  | .relative _ operand qs, scope =>
    thorough provider operand scope && thoroughQualifiers provider qs scope
  | .conditional _ g t f, scope =>
    thorough provider g scope &&
      match (eval provider g false scope).value with
      | .bool true => thoroughAttribute provider t scope
      | .bool false => thoroughAttribute provider f scope
      | _ => true
termination_by structural a => a

def thoroughQualifiers (provider : Provider) : List Qualifier → Scope → Bool
  | [], _ => true
  | .field .. :: rest, scope | .constant .. :: rest, scope =>
    thoroughQualifiers provider rest scope
  | .computed _ key :: rest, scope =>
    thorough provider key scope && thoroughQualifiers provider rest scope
termination_by structural qs => qs

end

theorem called_of_regular {id : Int} {function : String} {args : List Plan}
    {overloads : List Overload} {provider : Provider} {scope : Scope}
    (sound : (!overloads.any Overload.nonStrict ||
      (evalAll provider args scope).value.all fun v => !v.isFailure) = true)
    (regular : (eval provider (call id function args overloads) false scope).value.isFailure =
      false) :
    (∀ p ∈ args, (eval provider p false scope).value.isFailure = false) ∧
      (eval provider (call id function args overloads) false scope).work =
        (evalAll provider args scope).work + 1 := by
  have members : (∀ v ∈ (evalAll provider args scope).value, v.isFailure = false) →
      ∀ p ∈ args, (eval provider p false scope).value.isFailure = false := by
    intro each p member
    rw [value_evalAll] at each
    exact each _ (List.mem_map.mpr ⟨p, member, rfl⟩)
  simp only [eval, Run.value_bind, Run.work_bind, Run.work_reach, Nat.zero_add] at regular ⊢
  split at regular
  · next v passed =>
    split at passed
    · cases passed
    · have failed := Value.isFailure_of_propagate passed
      rw [Run.value_pure, failed] at regular
      cases regular
  · next passed =>
    rw [Run.value_bind, Run.value_pure, Value.isFailure_withExprId] at regular
    refine ⟨members ?_, ?_⟩
    · split at passed
      · next lax =>
        rw [lax] at sound
        simpa using sound
      · exact Value.regular_of_propagate passed
    · rw [Run.work_bind, work_dispatch_of_regular regular]
      rfl

section

open Run (work_bind work_pure work_reach work_emit value_bind value_pure)

variable (provider : Provider)

theorem membership_of_regular {id : Int} {element : Plan} {items : List Value} {keys : List Key}
    {function : String} {overloads : List Overload} {scope : Scope}
    (regular : (eval provider (membership id element items keys function overloads) false
      scope).value.isFailure = false) :
    (eval provider element false scope).value.isFailure = false ∧
      (eval provider (membership id element items keys function overloads) false scope).work =
        (eval provider element false scope).work + 1 := by
  have sound : (eval provider element false scope).value.isFailure = false := by
    by_contra failed
    rw [value_membership, Value.memberOf, if_pos (by simpa using failed)] at regular
    exact failed regular
  refine ⟨sound, ?_⟩
  simp only [eval, value_bind, work_bind, work_reach, Nat.zero_add, sound, Bool.false_eq_true,
    ↓reduceIte] at regular ⊢
  split at regular
  · rfl
  · rw [value_bind, value_pure, Value.isFailure_withExprId] at regular
    rw [work_bind, work_dispatch_of_regular regular]
    rfl

theorem search_of_regular {id : Int} {text : Plan} {source : String} {pattern : Regex.Pattern}
    {function : String} {overloads : List Overload} {scope : Scope}
    (regular : (eval provider (search id text source pattern function overloads) false
      scope).value.isFailure = false) :
    (eval provider text false scope).value.isFailure = false ∧
      (eval provider (search id text source pattern function overloads) false scope).work =
        (eval provider text false scope).work + 1 := by
  have sound : (eval provider text false scope).value.isFailure = false := by
    rw [value_search] at regular
    cases value : (eval provider text false scope).value with
    | error | unknown =>
      rw [value] at regular
      exact regular
    | _ => rfl
  refine ⟨sound, ?_⟩
  simp only [eval, value_bind, work_bind, work_reach, Nat.zero_add] at regular ⊢
  split at regular
  · rfl
  · rw [if_neg (by simpa using sound)] at regular ⊢
    rw [value_bind, value_pure, Value.isFailure_withExprId] at regular
    rw [work_bind, work_dispatch_of_regular regular]
    rfl

section Loop

variable {id : Int} {iterVar accuVar : String} {range init condition step result : Plan}
  {scope : Scope}

/-- A loop that succeeds has a range with elements, comes to an end with an accumulator, and has a
result for it. Its work is that of the range, the start, the iterations and the result. -/
theorem looped_of_regular
    (regular : (eval provider (loop id iterVar range accuVar init condition step result) false
      scope).value.isFailure = false) :
    (eval provider range false scope).value.isFailure = false ∧ ∃ elements accu,
      (eval provider range false scope).value.elements? = some elements ∧
        let conditions := fun accu x =>
          eval provider condition false (inside scope accuVar iterVar accu x)
        let steps := fun accu x => eval provider step false (inside scope accuVar iterVar accu x)
        let start := eval provider init false scope
        let last := eval provider result false (.frame scope accuVar accu)
        let iterations := iterate false conditions steps elements start.value
        iterations.value = .ok accu ∧ last.value.isFailure = false ∧
          (eval provider (loop id iterVar range accuVar init condition step result) false
            scope).work = (eval provider range false scope).work + start.work + iterations.work +
              last.work := by
  rw [eval, value_bind, value_bind] at regular
  rw [eval, work_bind, work_reach, Nat.zero_add, work_bind]
  split at regular
  · next failed =>
    rw [value_pure, failed] at regular
    cases regular
  · next sound =>
    refine ⟨by simpa using sound, ?_⟩
    rw [if_neg sound]
    split at regular
    · cases regular
    · next elements iterable =>
      simp only [value_bind, work_bind, iterable, ← inside.eq_1] at regular ⊢
      cases ended : (iterate false
          (fun accu x => eval provider condition false (inside scope accuVar iterVar accu x))
          (fun accu x => eval provider step false (inside scope accuVar iterVar accu x))
          elements (eval provider init false scope).value).value with
      | error e =>
        have failed : e.isFailure = true := Value.isFailure_of_isError (isError_of_iterate ended)
        rw [ended, value_pure, failed] at regular
        cases regular
      | ok accu =>
        rw [ended] at regular
        exact ⟨elements, accu, rfl, ended, regular, by simp only [Nat.add_assoc]⟩

end Loop

mutual

/-- A thorough evaluation that succeeds does no less work than the minimal cost. -/
theorem eval_worth (p : Plan) {bound : List String} (priced : p.Made pricing bound)
    {scope : Scope} (unmarked : scope.patterns = []) (thorough : p.thorough provider scope = true)
    (regular : (eval provider p false scope).value.isFailure = false) :
    p.cost.min ≤ (eval provider p false scope).work := by
  match p with
  | const id v => exact Nat.zero_le _
  | attr id a =>
    rw [eval, work_bind, work_reach, Nat.zero_add, cost]
    exact resolve_worth a priced unmarked thorough regular
  | both id l r | either id l r =>
    -- The minimum counts the first operand alone, as the other one may be left out.
    obtain ⟨part, succeeds⟩ := Bool.and_eq_true_iff.mp thorough
    have left := eval_worth l priced.1 unmarked part (by simpa using succeeds)
    refine Nat.le_trans left ?_
    rw [eval, work_bind, work_reach, Nat.zero_add, work_bind]
    exact Nat.le_add_right ..
  | conditional id g t f =>
    obtain ⟨part, chosen⟩ := Bool.and_eq_true_iff.mp thorough
    have total := Cost.min_add_le g.cost (t.cost.either f.cost)
    rw [value_conditional] at regular
    rw [eval, work_bind, work_reach, Nat.zero_add, work_bind, if_neg Bool.false_ne_true, cost]
    rcases Value.regular_of_select regular with ⟨holds, regular⟩ | ⟨holds, regular⟩
    · rw [holds] at chosen ⊢
      have guard := eval_worth g priced.1 unmarked part (by rw [holds]; rfl)
      have branch := eval_worth t priced.2.1 unmarked chosen regular
      have least : (t.cost.either f.cost).min ≤ t.cost.min := Nat.min_le_left ..
      simp only
      omega
    · rw [holds] at chosen ⊢
      have guard := eval_worth g priced.1 unmarked part (by rw [holds]; rfl)
      have branch := eval_worth f priced.2.2 unmarked chosen regular
      have least : (t.cost.either f.cost).min ≤ f.cost.min := Nat.min_le_right ..
      simp only
      omega
  | call id function args overloads =>
    obtain ⟨parts, sound⟩ := Bool.and_eq_true_iff.mp thorough
    obtain ⟨each, answered⟩ := called_of_regular sound regular
    have parts := evalAll_worth args priced.2 unmarked parts each
    have least := Nat.le_trans (Cost.min_sum_le _) parts
    have once := min_callCost_le priced.1 (args.map sizeHint?)
    have total := Cost.min_add_le (.sum (costs args)) (callCost overloads (args.map sizeHint?))
    rw [answered, cost]
    omega
  | list id elements =>
    rw [value_list] at regular
    have each := (Value.regular_of_strict regular).1
    simp only [eval, work_bind, work_reach, Nat.zero_add, work_pure, Nat.add_zero]
    refine Nat.le_trans (Cost.min_sum_le _) ?_
    exact evalAll_worth elements priced unmarked thorough fun p member =>
      each _ (List.mem_map.mpr ⟨p, member, rfl⟩)
  | mapping id entries =>
    rw [value_mapping] at regular
    have each := (Value.regular_of_strict regular).1
    simp only [eval, work_bind, work_reach, Nat.zero_add, work_pure, Nat.add_zero]
    refine Nat.le_trans (Cost.min_sum_le _) ?_
    refine evalEntries_worth entries priced unmarked thorough fun e member => ?_
    have pair : ∀ v ∈
        [(eval provider e.1 false scope).value, (eval provider e.2 false scope).value],
        v.isFailure = false := fun v part =>
      each v (List.mem_flatMap.mpr ⟨_, List.mem_map.mpr ⟨e, member, rfl⟩, part⟩)
    exact ⟨pair _ List.mem_cons_self, pair _ (List.mem_cons_of_mem _ List.mem_cons_self)⟩
  | object id typeName fields =>
    rw [value_object] at regular
    have each := (Value.regular_of_strict regular).1
    have parts := evalFields_worth fields priced unmarked thorough fun f member =>
      each _ (List.mem_map.mpr ⟨_, List.mem_map.mpr ⟨f, member, rfl⟩, rfl⟩)
    rw [eval, work_bind, work_reach, Nat.zero_add, work_bind]
    exact Nat.le_trans (Cost.min_sum_le _) (Nat.le_trans parts (Nat.le_add_right ..))
  | presence id operand field access =>
    rw [value_presence] at regular
    have part := eval_worth operand priced unmarked thorough (Value.regular_of_testField regular)
    have total := Cost.min_add_le operand.cost .one
    simp only [eval, work_bind, work_reach, Nat.zero_add, work_pure, Nat.add_zero, work_emit,
      Event.isWork, ↓reduceIte]
    exact Nat.le_trans total (Nat.add_le_add_right part 1)
  | loop id iterVar range accuVar init condition step result =>
    obtain ⟨rangePriced, initPriced, conditionPriced, stepPriced, resultPriced⟩ := priced
    obtain ⟨parts, rest⟩ := Bool.and_eq_true_iff.mp thorough
    obtain ⟨rangeThorough, initThorough⟩ := Bool.and_eq_true_iff.mp parts
    obtain ⟨sound, elements, accu, iterable, ended, regular, worked⟩ :=
      looped_of_regular provider regular
    simp only [iterable, ended, Bool.and_eq_true, Bool.not_eq_true'] at rest
    obtain ⟨⟨begins, taken⟩, ends⟩ := rest
    have ranged := eval_worth range rangePriced unmarked rangeThorough sound
    have started := eval_worth init initPriced unmarked initThorough begins
    have finished : result.cost.min ≤
        (eval provider result false (.frame scope accuVar accu)).work :=
      eval_worth result resultPriced unmarked ends regular
    have iterations := iterate_worth (c := condition.cost) (d := step.cost)
      (fun k known => length_of_sizeHint known iterable)
      (fun accu x checked stepped sound => by
        obtain ⟨first, second⟩ := Bool.and_eq_true_iff.mp sound
        have checks : condition.cost.min ≤
            (eval provider condition false (inside scope accuVar iterVar accu x)).work :=
          eval_worth condition conditionPriced unmarked first checked
        have steps : step.cost.min ≤
            (eval provider step false (inside scope accuVar iterVar accu x)).work :=
          eval_worth step stepPriced unmarked second stepped
        exact ⟨checks, steps⟩) taken
    have first := Cost.min_add_le range.cost init.cost
    have before := Cost.min_add_le (range.cost + init.cost)
      ((condition.cost + step.cost).repeated range.sizeHint?)
    have total := Cost.min_add_le (range.cost + init.cost +
      (condition.cost + step.cost).repeated range.sizeHint?) result.cost
    rw [worked, cost]
    omega
  | membership id element items keys function overloads =>
    obtain ⟨sound, answered⟩ := membership_of_regular provider regular
    have part := eval_worth element priced.2 unmarked thorough sound
    have total := Cost.min_add_le element.cost .one
    rw [answered, cost]
    exact Nat.le_trans total (Nat.add_le_add_right part 1)
  | search id text source pattern function overloads =>
    obtain ⟨sound, answered⟩ := search_of_regular provider regular
    have part := eval_worth text priced.2 unmarked thorough sound
    have once := min_callCost_le priced.1 [text.sizeHint?, none]
    have total := Cost.min_add_le text.cost (callCost overloads [text.sizeHint?, none])
    rw [answered, cost]
    omega
  | exhaustive inner => cases thorough
  | observed inner =>
    have within := eval_worth inner priced unmarked thorough regular
    simp only [eval, work_bind, Scope.work_record, work_pure, Nat.add_zero]
    exact within

theorem evalAll_worth (ps : List Plan) {bound : List String} (priced : MadeAll pricing ps bound)
    {scope : Scope} (unmarked : scope.patterns = [])
    (thorough : thoroughAll provider ps scope = true)
    (regular : ∀ p ∈ ps, (eval provider p false scope).value.isFailure = false) :
    ((costs ps).map Cost.min).sum ≤ (evalAll provider ps scope).work := by
  match ps with
  | [] => exact Nat.zero_le _
  | p :: rest =>
    obtain ⟨here, later⟩ := Bool.and_eq_true_iff.mp thorough
    obtain ⟨sound, regular⟩ := List.forall_mem_cons.mp regular
    have first := eval_worth p priced.1 unmarked here sound
    have others := evalAll_worth rest priced.2 unmarked later regular
    simp only [evalAll, work_bind, work_pure, Nat.add_zero, costs, List.map_cons, List.sum_cons]
    exact Nat.add_le_add first others

theorem evalEntries_worth (entries : List (Plan × Plan)) {bound : List String}
    (priced : MadeKeyed pricing entries bound) {scope : Scope} (unmarked : scope.patterns = [])
    (thorough : thoroughKeyed provider entries scope = true)
    (regular : ∀ e ∈ entries, (eval provider e.1 false scope).value.isFailure = false ∧
      (eval provider e.2 false scope).value.isFailure = false) :
    ((entryCosts entries).map Cost.min).sum ≤ (evalEntries provider entries scope).work := by
  match entries with
  | [] => exact Nat.zero_le _
  | (k, v) :: rest =>
    obtain ⟨pair, later⟩ := Bool.and_eq_true_iff.mp thorough
    obtain ⟨keyThorough, valueThorough⟩ := Bool.and_eq_true_iff.mp pair
    obtain ⟨⟨keySound, valueSound⟩, regular⟩ := List.forall_mem_cons.mp regular
    have key := eval_worth k priced.1 unmarked keyThorough keySound
    have value := eval_worth v priced.2.1 unmarked valueThorough valueSound
    have others := evalEntries_worth rest priced.2.2 unmarked later regular
    have least := Cost.min_add_le k.cost v.cost
    simp only [evalEntries, work_bind, work_pure, Nat.add_zero, entryCosts, List.map_cons,
      List.sum_cons]
    omega

theorem evalFields_worth (fields : List (String × Plan)) {bound : List String}
    (priced : MadeFields pricing fields bound) {scope : Scope} (unmarked : scope.patterns = [])
    (thorough : thoroughFields provider fields scope = true)
    (regular : ∀ f ∈ fields, (eval provider f.2 false scope).value.isFailure = false) :
    ((fieldCosts fields).map Cost.min).sum ≤ (evalFields provider fields scope).work := by
  match fields with
  | [] => exact Nat.zero_le _
  | (name, v) :: rest =>
    obtain ⟨here, later⟩ := Bool.and_eq_true_iff.mp thorough
    obtain ⟨sound, regular⟩ := List.forall_mem_cons.mp regular
    have value := eval_worth v priced.1 unmarked here sound
    have others := evalFields_worth rest priced.2 unmarked later regular
    simp only [evalFields, work_bind, work_pure, Nat.add_zero, fieldCosts, List.map_cons,
      List.sum_cons]
    exact Nat.add_le_add value others

theorem resolve_worth (a : Attribute) {bound : List String}
    (priced : MadeAttribute pricing a bound) {scope : Scope} (unmarked : scope.patterns = [])
    (thorough : thoroughAttribute provider a scope = true)
    (regular : (resolve provider a false scope).value.isFailure = false) :
    (attributeCost a).min ≤ (resolve provider a false scope).work := by
  match a with
  | .absolute id isLocal names qs =>
    exact Variable.resolve_worth unmarked (steps_worth qs priced.2 unmarked thorough) regular
  | .ambiguous id names qs =>
    rw [resolve, attributeCost_ambiguous provider]
    exact Variable.resolveUnchecked_worth unmarked (steps_worth qs priced.2 unmarked thorough)
      regular
  | .relative id operand qs =>
    obtain ⟨part, keys⟩ := Bool.and_eq_true_iff.mp thorough
    have total := Cost.min_add_le operand.cost (.sum (qualifierCosts qs))
    have least := Cost.min_sum_le (qualifierCosts qs)
    have sound : (eval provider operand false scope).value.isFailure = false := by
      by_contra failed
      rw [value_relative, Step.walk_of_failure _ _ (by simpa using failed)] at regular
      exact failed regular
    have operand := eval_worth operand priced.1 unmarked part sound
    have walked := Step.walk_worth (steps_worth qs priced.2 unmarked keys) regular
    rw [resolve, attributeCost, work_bind]
    omega
  | .conditional id g t f =>
    obtain ⟨part, chosen⟩ := Bool.and_eq_true_iff.mp thorough
    have total := Cost.min_add_le g.cost ((attributeCost t).either (attributeCost f))
    rw [value_conditionalAttribute] at regular
    rw [resolve, work_bind, if_neg Bool.false_ne_true, attributeCost]
    rcases Value.regular_of_select regular with ⟨holds, regular⟩ | ⟨holds, regular⟩
    · rw [holds] at chosen ⊢
      have guard := eval_worth g priced.1 unmarked part (by rw [holds]; rfl)
      have branch := resolve_worth t priced.2.1 unmarked chosen regular
      have least : ((attributeCost t).either (attributeCost f)).min ≤ (attributeCost t).min :=
        Nat.min_le_left ..
      simp only
      omega
    · rw [holds] at chosen ⊢
      have guard := eval_worth g priced.1 unmarked part (by rw [holds]; rfl)
      have branch := resolve_worth f priced.2.2 unmarked chosen regular
      have least : ((attributeCost t).either (attributeCost f)).min ≤ (attributeCost f).min :=
        Nat.min_le_right ..
      simp only
      omega

theorem steps_worth (qs : List Qualifier) {bound : List String}
    (priced : MadeQualifiers pricing qs bound) {scope : Scope} (unmarked : scope.patterns = [])
    (thorough : thoroughQualifiers provider qs scope = true) :
    List.Forall₂ (Step.Worth scope) (qualifierCosts qs) (steps provider qs) := by
  match qs with
  | [] => exact .nil
  | .field id name access :: rest =>
    exact .cons (fun _ _ => Nat.le_refl 1) (steps_worth rest priced unmarked thorough)
  | .constant id key :: rest =>
    exact .cons (fun _ _ => Nat.le_refl 1) (steps_worth rest priced unmarked thorough)
  | .computed id key :: rest =>
    obtain ⟨here, later⟩ := Bool.and_eq_true_iff.mp thorough
    refine .cons (fun v regular => ?_) (steps_worth rest priced.2 unmarked later)
    have sound := (Value.regular_of_strict regular).1 _ (List.mem_cons_of_mem v List.mem_cons_self)
    have part := eval_worth key priced.1 unmarked here sound
    have total := Cost.min_add_le key.cost .one
    simp only [work_bind, work_pure, Nat.add_zero]
    exact Nat.le_trans total (Nat.add_le_add_right part 1)

end

end

end Plan

end ExprEngine
