import ExprEngine.Proofs.Value.Unknowns
import ExprEngine.Proofs.Whole.Standard
import Mathlib.Data.List.Forall2

/-!
# Alike values

Two values are alike if they are the same whole value, or errors of one kind that name the same
expression. Operations cannot tell alike operands apart, except by the message of an error.
-/

namespace ExprEngine

namespace Value

variable [TrustedObjects]

/-- The same whole value, or errors that differ in their messages at most. -/
def Alike (v w : Value) : Prop :=
  v = w ∧ v.isWhole = true ∨
    ∃ e f id, v = error e ∧ w = error f ∧ e.kind = f.kind ∧ e.exprId = some id ∧ f.exprId = some id

variable {v w l r l' r' : Value}

theorem alike_of_whole (whole : v.isWhole = true) : Alike v v := .inl ⟨rfl, whole⟩

theorem alike_error {e f : EvalError} {id : Int} (kind : e.kind = f.kind)
    (left : e.exprId = some id) (right : f.exprId = some id) : Alike (error e) (error f) :=
  .inr ⟨e, f, id, rfl, rfl, kind, left, right⟩

theorem alike_withExprId (settled : v.Settled) (id : Int) :
    Alike (v.withExprId id) (v.withExprId id) := by
  rcases settled with whole | isError
  · rw [withExprId_of_isWhole whole]
    exact alike_of_whole whole
  · cases v with
    | error e =>
      obtain ⟨known, found⟩ : ∃ known, (e.withExprId id).exprId = some known := by
        unfold EvalError.withExprId
        cases e.exprId <;> exact ⟨_, rfl⟩
      exact alike_error rfl found found
    | _ => cases isError

theorem Alike.withExprId (alike : Alike v w) (id : Int) :
    Alike (v.withExprId id) (w.withExprId id) := by
  rcases alike with ⟨rfl, whole⟩ | ⟨e, f, known, rfl, rfl, kind, left, right⟩
  · exact alike_withExprId (.inl whole) id
  · rw [withExprId_of_some left, withExprId_of_some right]
    exact alike_error kind left right

theorem Alike.isError (alike : Alike v w) : v.isError = w.isError := by
  rcases alike with ⟨rfl, -⟩ | ⟨e, f, id, rfl, rfl, -⟩
  · rfl
  · rfl

theorem Alike.isFailure (alike : Alike v w) : v.isFailure = w.isFailure := by
  rcases alike with ⟨rfl, -⟩ | ⟨e, f, id, rfl, rfl, -⟩
  · rfl
  · rfl

theorem Alike.kind (alike : Alike v w) :
    v.asError?.map EvalError.kind = w.asError?.map EvalError.kind := by
  rcases alike with ⟨rfl, -⟩ | ⟨e, f, id, rfl, rfl, kind, -, -⟩
  · rfl
  · exact congrArg some kind

theorem Alike.decides (alike : Alike v w) (short : Bool) : v.decides short = w.decides short := by
  rcases alike with ⟨rfl, -⟩ | ⟨e, f, id, rfl, rfl, -⟩
  · rfl
  · rfl

theorem Alike.eq (alike : Alike v w) (regular : v.isError = false) : v = w := by
  rcases alike with ⟨same, -⟩ | ⟨e, f, id, rfl, -⟩
  · exact same
  · cases regular

theorem Alike.settled (alike : Alike v w) : v.Settled := by
  rcases alike with ⟨-, whole⟩ | ⟨e, f, id, rfl, -⟩
  · exact .inl whole
  · exact .inr rfl

theorem Alike.other_settled (alike : Alike v w) : w.Settled := by
  rcases alike with ⟨rfl, whole⟩ | ⟨e, f, id, -, rfl, -⟩
  · exact .inl whole
  · exact .inr rfl

theorem Alike.whole (alike : Alike v w) (regular : v.isFailure = false) : v.isWhole = true := by
  rcases alike with ⟨-, whole⟩ | ⟨e, f, id, rfl, -⟩
  · exact whole
  · cases regular

/-! ### Strict operations -/

theorem unknownOf_settled {vs : List Value} (settled : ∀ v ∈ vs, v.Settled) :
    unknownOf vs = none :=
  unknownOf_eq_none.mpr fun v member => isUnknown_of_settled (settled v member)

theorem strict_error {vs : List Value} (settled : ∀ v ∈ vs, v.Settled) (result : Value) :
    strict vs result = (vs.find? Value.isError).getD result := by
  rw [strict, propagate, unknownOf_settled settled]

theorem alike_cases {vs ws : List Value} (alike : List.Forall₂ Alike vs ws) :
    (vs = ws ∧ ∀ v ∈ vs, v.isWhole = true) ∨
      ∃ e f, vs.find? Value.isError = some e ∧ ws.find? Value.isError = some f ∧ Alike e f := by
  induction alike with
  | nil => exact .inl ⟨rfl, fun v member => by cases member⟩
  | @cons v w vs ws first _ ih =>
    cases failed : v.isError with
    | true =>
      refine .inr ⟨v, w, ?_, ?_, first⟩
      · rw [List.find?_cons, failed]
      · rw [List.find?_cons, ← first.isError, failed]
    | false =>
      rcases ih with ⟨rfl, whole⟩ | ⟨e, f, left, right, alike⟩
      · refine .inl ⟨by rw [first.eq failed], fun u member => ?_⟩
        rcases List.mem_cons.mp member with rfl | member
        · rcases first.settled with whole | isError
          · exact whole
          · rw [failed] at isError
            cases isError
        · exact whole u member
      · refine .inr ⟨e, f, ?_, ?_, alike⟩
        · rw [List.find?_cons, failed]
          exact left
        · rw [List.find?_cons, ← first.isError, failed]
          exact right

theorem forall_settled {vs ws : List Value} (alike : List.Forall₂ Alike vs ws) :
    (∀ v ∈ vs, v.Settled) ∧ ∀ w ∈ ws, w.Settled := by
  induction alike with
  | nil => simp
  | cons first _ ih =>
    constructor
    · intro v member
      rcases List.mem_cons.mp member with rfl | member
      · exact first.settled
      · exact ih.1 v member
    · intro w member
      rcases List.mem_cons.mp member with rfl | member
      · exact first.other_settled
      · exact ih.2 w member

/-- A strict operation on alike operands, where whole operands have a result alike to itself. -/
theorem strict_alike {vs ws : List Value} (alike : List.Forall₂ Alike vs ws)
    {f g : Value} (same : vs = ws → (∀ v ∈ vs, v.isWhole = true) → Alike f g) :
    Alike (strict vs f) (strict ws g) := by
  obtain ⟨left, right⟩ := forall_settled alike
  rcases alike_cases alike with ⟨rfl, whole⟩ | ⟨e, e', found, found', alike⟩
  · have regular : ∀ v ∈ vs, v.isFailure = false := fun v member =>
      isFailure_of_isWhole (whole v member)
    rw [strict_regular regular, strict_regular regular]
    exact same rfl whole
  · rw [strict_error left, strict_error right, found, found']
    exact alike

/-! ### Logical operations -/

theorem combine_alike (id : Int) (short : Bool) (left : Alike l l') (right : Alike r r') :
    Alike (combine id short l r) (combine id short l' r') := by
  unfold combine
  rw [← left.decides, ← right.decides]
  split
  · exact left
  · split
    · exact right
    · have pair : List.Forall₂ Alike [l, r] [l', r'] := .cons left (.cons right .nil)
      have other : Alike
          ((propagate [l, r]).getD ((noSuchOverload
            (if short then Operator.logicalOr else Operator.logicalAnd) [l, r]).withExprId id))
          ((propagate [l', r']).getD ((noSuchOverload
            (if short then Operator.logicalOr else Operator.logicalAnd)
              [l', r']).withExprId id)) := by
        refine strict_alike pair fun same _ => ?_
        rw [same]
        exact alike_withExprId (failure_fresh _ _).settled id
      rcases left with ⟨rfl, whole⟩ | ⟨e, f, known, rfl, rfl, kind⟩
      · rcases right with ⟨rfl, whole'⟩ | ⟨e, f, known, rfl, rfl, kind⟩
        · cases l <;> cases r <;> first | exact alike_of_whole rfl | exact other
        · cases l <;> exact other
      · exact other

theorem select_alike (id : Int) {g g' : Value} (guard : Alike g g') (whenTrue : Alike l l')
    (whenFalse : Alike r r') : Alike (select id g l r) (select id g' l' r') := by
  rcases guard with ⟨rfl, whole⟩ | ⟨e, f, known, rfl, rfl, kind, left, right⟩
  · cases g with
    | bool b => cases b <;> assumption
    | error e => simp [isWhole] at whole
    | unknown ids => simp [isWhole] at whole
    | _ => exact alike_withExprId (failure_fresh _ _).settled id
  · exact alike_error kind left right

variable [HostObjects]

/-! ### Parts of values -/

theorem selectField_alike [TrustedObjects.Sound] (alike : Alike v w) (field : Key) (id : Int) :
    Alike ((v.selectField field).withExprId id) ((w.selectField field).withExprId id) := by
  rcases alike with ⟨rfl, whole⟩ | ⟨e, f, known, rfl, rfl, kind, left, right⟩
  · exact alike_withExprId (selectField_fresh whole field).settled id
  · exact (alike_error kind left right).withExprId id

theorem hasField_alike (alike : Alike v w) (field : String) (id : Int) :
    Alike ((v.hasField field).withExprId id) ((w.hasField field).withExprId id) := by
  rcases alike with ⟨rfl, whole⟩ | ⟨e, f, known, rfl, rfl, kind, left, right⟩
  · exact alike_withExprId (hasField_fresh whole field).settled id
  · exact (alike_error kind left right).withExprId id

theorem index_error (e : EvalError) {key : Value} (settled : key.Settled) :
    (error e).index key = error e := by
  rw [index_eq_strict, strict_error (forall_pair (.inr rfl) settled)]
  rfl

variable [TrustedObjects.Sound]

theorem index_alike (operand : Alike v w) (key : Alike l l') (id : Int) :
    Alike ((v.index l).withExprId id) ((w.index l').withExprId id) := by
  obtain ⟨left, right⟩ := forall_settled (.cons operand (.cons key .nil))
  rcases alike_cases (.cons operand (.cons key .nil)) with ⟨same, whole⟩ |
    ⟨e, f, found, found', alike⟩
  · simp only [List.cons.injEq, and_true] at same
    obtain ⟨rfl, rfl⟩ := same
    exact alike_withExprId (index_fresh (whole v (by simp)) (whole l (by simp))).settled id
  · rw [index_eq_strict v, index_eq_strict w, strict_error left, strict_error right, found, found']
    exact alike.withExprId id

/-! ### Calls -/

/-- A call of the standard library cannot tell alike arguments apart. -/
theorem called_alike (id : Int) {function : String} {vs ws : List Value}
    (alike : List.Forall₂ Alike vs ws) :
    let overloads := (Registry.standard.find function).filter (·.takes vs.length)
    Alike (called id function overloads vs) (called id function overloads ws) := by
  intro overloads
  rcases Standard.strict_or_guarded function vs.length with strict | ⟨one, guarded⟩
  · unfold called
    rw [strict]
    simp only [Bool.false_eq_true, ↓reduceIte]
    refine strict_alike alike fun same whole => ?_
    rw [same]
    exact alike_withExprId (dispatch_standard_fresh function vs.length (same ▸ whole)).settled id
  · rw [show overloads = _ from guarded]
    clear guarded overloads
    match vs, ws, alike with
    | [v], [w], .cons first .nil =>
      rw [called_guard, called_guard, first.decides]
      exact alike_of_whole rfl

end Value

end ExprEngine
