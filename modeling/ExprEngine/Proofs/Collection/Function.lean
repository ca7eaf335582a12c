import ExprEngine.Proofs.Partial.Macros
import Mathlib.Algebra.GroupWithZero.Nat

/-!
# Collection functions

What a collection macro stands for, by the values that its parts have for the elements, and the
steps that lead there. A collection ends at the first element that decides it or fails; if there is
none, all elements are gathered.
-/

namespace ExprEngine

namespace Value

/-- What a conjunction of `true`s, or a disjunction of `false`s, becomes with one more operand. -/
def settle (id : Int) (short : Bool) : Value → Value
  | bool b => bool b
  | v =>
    if v.isFailure then v
    else (noSuchOverload (if short then Operator.logicalOr else Operator.logicalAnd)
      [bool (!short), v]).withExprId id

/-- The error that a guard is, unless it is a truth value. -/
def objection? (id : Int) : Value → Option Value
  | bool _ => none
  | v => some (unguided id v)

def failed? (v : Value) : Option Value := if v.isError then some v else none

def single (v : Value) : Value := strict [v] (list [v])

theorem combine_settle (id : Int) (short : Bool) (v : Value) :
    combine id short (bool (!short)) v = v.settle id short := by
  cases v with
  | bool b => cases short <;> cases b <;> rfl
  | _ => cases short <;> rfl

theorem select_objection (id : Int) (guard whenTrue whenFalse : Value) :
    select id guard whenTrue whenFalse =
      (guard.objection? id).getD (if guard.decides true then whenTrue else whenFalse) := by
  cases guard with
  | bool b => cases b <;> rfl
  | _ => rfl

theorem objection_of_decides (id : Int) {guard : Value} (holds : guard.decides true = true) :
    guard.objection? id = none := by
  rw [eq_of_decides holds]
  rfl

theorem regular_cases {v : Value} (decided : v.isUnknown = false) :
    v.isError = true ∨ v.isFailure = false := by
  cases v with
  | error => exact .inl rfl
  | unknown => cases decided
  | _ => exact .inr rfl

theorem isError_unguided (id : Int) {v : Value} (decided : v.isUnknown = false) :
    (unguided id v).isError = true := by
  rcases regular_cases decided with isError | regular
  · rwa [unguided, if_pos (isFailure_of_isError isError)]
  · rw [unguided, if_neg (by simp [regular])]
    rfl

theorem settle_cases (id : Int) (short : Bool) {v : Value} (decided : v.isUnknown = false)
    (other : v.decides (!short) = false) :
    (v.settle id short).isError = true ∨ v.settle id short = bool short := by
  cases v with
  | bool b =>
    right
    cases short <;> cases b <;> first | rfl | cases other
  | unknown => cases decided
  | _ => exact .inl rfl

end Value

namespace Macro

def holds (read : Expr → Value → Value) (predicate : Expr) (x : Value) : Bool :=
  (read predicate x).decides true

/-- What ends the collection at an element, if anything does, where the parts have the values that
`read` tells. Values of another type than is asked for are errors of the node. -/
def decision? (m : Macro) (id : Int) (read : Expr → Value → Value) (x : Value) : Option Value :=
  match m with
  | all predicate =>
    if (read predicate x).decides true then none else some ((read predicate x).settle id false)
  | exist predicate =>
    if (read predicate x).decides false then none else some ((read predicate x).settle id true)
  | existOne predicate | filter predicate => (read predicate x).objection? id
  | map transform => (read transform x).failed?
  | mapWhere predicate transform =>
    if holds read predicate x then (read transform x).failed?
    else (read predicate x).objection? id

/-- What the elements come to, if none of them ends the collection. -/
def gathered (m : Macro) (read : Expr → Value → Value) (elements : List Value) : Value :=
  match m with
  | all _ => .bool true
  | exist _ => .bool false
  | existOne predicate => .bool (elements.countP (holds read predicate) == 1)
  | map transform => .list (elements.map (read transform))
  | mapWhere predicate transform =>
    .list ((elements.filter (holds read predicate)).map (read transform))
  | filter predicate => .list (elements.filter (holds read predicate))

/-- The collection function that the macro stands for. -/
def collected (m : Macro) (id : Int) (read : Expr → Value → Value) (elements : List Value) :
    Value :=
  (elements.findSome? (m.decision? id read)).getD (m.gathered read elements)

/-! ### Accumulators -/

/-- The accumulator after elements that did not end the collection. -/
def tally (m : Macro) (read : Expr → Value → Value) (done : List Value) : Value :=
  match m with
  | existOne predicate => .int (Int64.ofNat (done.countP (holds read predicate)))
  | all _ | exist _ | map _ | mapWhere .. | filter _ => m.gathered read done

def goesOn (m : Macro) (v : Value) : Value :=
  match m.decider with
  | some short => .bool (!v.decides short)
  | none => .bool true

def next (m : Macro) (ids : Nat → Int) (plus : Int → Value → Value → Value)
    (read : Expr → Value → Value) (v x : Value) : Value :=
  match m with
  | all predicate => Value.combine (ids 4) false v (read predicate x)
  | exist predicate => Value.combine (ids 5) true v (read predicate x)
  | existOne predicate => Value.select (ids 6) (read predicate x) (plus (ids 4) v (.int 1)) v
  | map transform => plus (ids 4) v (read transform x).single
  | mapWhere predicate transform =>
    Value.select (ids 6) (read predicate x) (plus (ids 4) v (read transform x).single) v
  | filter predicate => Value.select (ids 7) (read predicate x) (plus (ids 5) v x.single) v

/-- The place of the node that asks for truth values. -/
def asking : Macro → Nat
  | all _ | map _ => 4
  | exist _ => 5
  | existOne _ | mapWhere .. => 6
  | filter _ => 7

structure Sums (plus : Int → Value → Value → Value) : Prop where
  counts : ∀ id n, n + 1 < 2 ^ 63 →
    plus id (.int (Int64.ofNat n)) (.int 1) = .int (Int64.ofNat (n + 1))
  lists : ∀ id items v, plus id (.list items) (Value.single v) =
    if v.isFailure then v else .list (items ++ [v])

variable {m : Macro} {ids : Nat → Int} {plus : Int → Value → Value → Value}
  {read : Expr → Value → Value} {done : List Value} {x v : Value}

theorem isError_tally (m : Macro) (read : Expr → Value → Value) (done : List Value) :
    (m.tally read done).isError = false := by
  cases m <;> rfl

theorem goesOn_tally (m : Macro) (read : Expr → Value → Value) (done : List Value) :
    m.goesOn (m.tally read done) = .bool true := by
  cases m <;> rfl

theorem Sums.append (sums : Sums plus) (id : Int) (items : List Value)
    (decided : v.isUnknown = false) :
    plus id (.list items) v.single = v.failed?.getD (.list (items ++ [v])) := by
  rw [sums.lists, Value.failed?]
  rcases Value.regular_cases decided with isError | regular
  · rw [if_pos (Value.isFailure_of_isError isError), if_pos isError]
    rfl
  · have succeeds : v.isError = false := by
      cases v with
      | error => cases regular
      | _ => rfl
    simp [regular, succeeds]

theorem next_tally (sums : Sums plus) (regular : x.isFailure = false)
    (decided : ∀ e ∈ m.parts, (read e x).isUnknown = false)
    (counted : ∀ predicate, m = .existOne predicate →
      (done ++ [x]).countP (holds read predicate) < 2 ^ 63) :
    m.next ids plus read (m.tally read done) x =
      (m.decision? (ids m.asking) read x).getD (m.tally read (done ++ [x])) := by
  cases m with
  | all predicate =>
    change Value.combine (ids 4) false (.bool (!false)) (read predicate x) = _
    rw [Value.combine_settle, decision?]
    split
    · next holds =>
      rw [Value.eq_of_decides holds]
      rfl
    · rfl
  | exist predicate =>
    change Value.combine (ids 5) true (.bool (!true)) (read predicate x) = _
    rw [Value.combine_settle, decision?]
    split
    · next fails =>
      rw [Value.eq_of_decides fails]
      rfl
    · rfl
  | existOne predicate =>
    -- The count stays a number, so that adding one to it cannot fail.
    have bounded := counted predicate rfl
    rw [next, Value.select_objection]
    congr 1
    change (if holds read predicate x then _ else _) = _
    simp only [tally, List.countP_append, List.countP_singleton] at bounded ⊢
    split
    · next taken =>
      rw [if_pos taken] at bounded
      exact sums.counts _ _ bounded
    · rfl
  | map transform =>
    have known := decided transform List.mem_cons_self
    rw [next, tally, gathered, sums.append _ _ known]
    simp only [decision?, tally, gathered, List.map_append, List.map_singleton]
  | mapWhere predicate transform =>
    have known := decided transform (List.mem_cons_of_mem _ List.mem_cons_self)
    rw [next, Value.select_objection, decision?]
    change ((read predicate x).objection? (ids 6)).getD
      (if holds read predicate x then _ else _) = _
    split
    · next taken =>
      rw [Value.objection_of_decides (ids 6) taken, tally, gathered, sums.append _ _ known]
      simp [tally, gathered, taken]
    · next skipped => simp [tally, gathered, skipped, asking]
  | filter predicate =>
    rw [next, Value.select_objection]
    congr 1
    change (if holds read predicate x then _ else _) = _
    have kept := sums.lists (ids 5) (done.filter (holds read predicate)) x
    rw [if_neg (by simp [regular])] at kept
    rw [tally, gathered, kept]
    split
    · next taken => simp [tally, gathered, taken]
    · next skipped => simp [tally, gathered, skipped]

theorem decision_cases (decided : ∀ e ∈ m.parts, (read e x).isUnknown = false) {id : Int}
    (ended : m.decision? id read x = some v) :
    v.isError = true ∨ ∃ short, m.decider = some short ∧ v = .bool short := by
  have objects {predicate : Expr} (known : (read predicate x).isUnknown = false)
      (ended : (read predicate x).objection? id = some v) : v.isError = true := by
    generalize read predicate x = guard at known ended
    cases guard with
    | bool => cases ended
    | _ =>
      obtain rfl := Option.some.inj ended
      exact Value.isError_unguided id known
  have fails {transform : Expr} (ended : (read transform x).failed? = some v) :
      v.isError = true := by
    unfold Value.failed? at ended
    split at ended
    · next isError =>
      obtain rfl := Option.some.inj ended
      exact isError
    · cases ended
  cases m with
  | all predicate =>
    simp only [decision?] at ended
    split at ended
    · cases ended
    · next other =>
      obtain rfl := Option.some.inj ended
      have known := decided predicate List.mem_cons_self
      exact (Value.settle_cases id false known (by simpa using other)).imp_right (⟨_, rfl, ·⟩)
  | exist predicate =>
    simp only [decision?] at ended
    split at ended
    · cases ended
    · next other =>
      obtain rfl := Option.some.inj ended
      have known := decided predicate List.mem_cons_self
      exact (Value.settle_cases id true known (by simpa using other)).imp_right (⟨_, rfl, ·⟩)
  | existOne predicate | filter predicate =>
    exact .inl (objects (decided predicate List.mem_cons_self) ended)
  | map transform => exact .inl (fails ended)
  | mapWhere predicate transform =>
    simp only [decision?] at ended
    split at ended
    · exact .inl (fails ended)
    · exact .inl (objects (decided predicate List.mem_cons_self) ended)

theorem combines_next (ids : Nat → Int) (plus : Int → Value → Value → Value)
    (read : Expr → Value → Value) {short : Bool} (decides : m.decider = some short) :
    ∃ id, Combines id short (fun v _ => pure (m.goesOn v))
      fun v x => pure (m.next ids plus read v x) := by
  have asks (v : Value) : m.goesOn v = .bool (!v.decides short) := by
    rw [goesOn, decides]
  cases m with
  | all predicate =>
    obtain rfl := Option.some.inj decides
    exact ⟨ids 4, fun v _ => asks v, fun v x => ⟨read predicate x, rfl⟩⟩
  | exist predicate =>
    obtain rfl := Option.some.inj decides
    exact ⟨ids 5, fun v _ => asks v, fun v x => ⟨read predicate x, rfl⟩⟩
  | _ => cases decides

end Macro

/-! ### Iteration -/

/-- A loop whose steps take elements in ends at the first element that ends the collection. -/
theorem iterate_collects {everything : Bool} {condition step : Value → Value → Run Value}
    {elements : List Value} {tally : List Value → Value} {decision? : Value → Option Value}
    (goes : ∀ done x, (condition (tally done) x).value = .bool true)
    (regular : ∀ done, (tally done).isError = false)
    (steps : ∀ done x rest, done ++ x :: rest = elements →
      (step (tally done) x).value = (decision? x).getD (tally (done ++ [x])))
    (ends : ∀ x ∈ elements, ∀ v, decision? x = some v → v.isError = false → ∀ rest,
      (iterate everything condition step rest v).value = .ok v) :
    (iterate everything condition step elements (tally [])).value =
      match elements.findSome? decision? with
      | some v => if v.isError then .error v else .ok v
      | none => .ok (tally elements) := by
  -- The elements that are taken in already are a prefix of all elements.
  have onward : ∀ rest done, done ++ rest = elements →
      (iterate everything condition step rest (tally done)).value =
        match rest.findSome? decision? with
        | some v => if v.isError then .error v else .ok v
        | none => .ok (tally elements) := by
    intro rest
    induction rest with
    | nil =>
      intro done whole
      rw [List.append_nil] at whole
      rw [whole]
      rfl
    | cons x rest ih =>
      intro done whole
      have undecided : (!everything && (Value.bool true).decides false) = false := by
        cases everything <;> rfl
      have member : x ∈ elements := by
        rw [← whole]
        exact List.mem_append_right _ List.mem_cons_self
      rw [value_iterate_cons, goes, if_neg (by simp [Value.isError]), undecided,
        if_neg Bool.false_ne_true, steps done x rest whole, List.findSome?_cons]
      cases ended : decision? x with
      | none =>
        rw [Option.getD_none, regular, if_neg Bool.false_ne_true]
        exact ih (done ++ [x]) (by rw [List.append_assoc, List.singleton_append, whole])
      | some v =>
        rw [Option.getD_some]
        simp only
        split
        · rfl
        · next succeeds => exact ends x member v ended (by simpa using succeeds) rest
  exact onward elements [] rfl

end ExprEngine
