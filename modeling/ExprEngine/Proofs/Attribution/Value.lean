import ExprEngine.Proofs.Strictness.Propagation
import ExprEngine.Proofs.Whole.Standard

/-!
# Attributed values

An attributed value is whole, or it fails with the nodes at hand that are to blame: an error names
one of them, and an unknown, possible only where names are marked, some of them. Operations keep
values attributed, because they pass failures on as they are and name their own node in the errors
that they raise.
-/

namespace ExprEngine.Value

variable [TrustedObjects]

/-- A whole value, or a failure that some of the nodes are to blame for. -/
inductive Attributed (nodes : List Int) (marked : Prop) : Value → Prop where
  | whole {v} (whole : v.isWhole = true) : Attributed nodes marked v
  | error {e id} (named : e.exprId = some id) (node : id ∈ nodes) :
      Attributed nodes marked (.error e)
  | unknown {s} (isMarked : marked) (blamed : s.ids ≠ []) (known : ∀ id ∈ s.ids, id ∈ nodes) :
      Attributed nodes marked (.unknown s)

variable {nodes : List Int} {marked : Prop} {v w l r g result : Value} {vs : List Value} {id : Int}

namespace Attributed

theorem isWhole (attributed : v.Attributed nodes marked) (regular : v.isFailure = false) :
    v.isWhole = true := by
  cases attributed with
  | whole whole => exact whole
  | error => cases regular
  | unknown => cases regular

theorem of_error {e : EvalError} (attributed : (Value.error e).Attributed nodes marked) :
    ∃ id ∈ nodes, e.exprId = some id := by
  cases attributed with
  | whole whole => simp [Value.isWhole] at whole
  | error named node => exact ⟨_, node, named⟩

theorem of_unknown {s : UnknownSet} (attributed : (Value.unknown s).Attributed nodes marked) :
    marked ∧ s.ids ≠ [] ∧ ∀ id ∈ s.ids, id ∈ nodes := by
  cases attributed with
  | whole whole => simp [Value.isWhole] at whole
  | unknown isMarked blamed known => exact ⟨isMarked, blamed, known⟩

theorem mono {other : Prop} (attributed : v.Attributed nodes marked) (weaker : marked → other) :
    v.Attributed nodes other := by
  cases attributed with
  | whole whole => exact .whole whole
  | error named node => exact .error named node
  | unknown isMarked blamed known => exact .unknown (weaker isMarked) blamed known

theorem withExprId_eq (attributed : v.Attributed nodes marked) (id : Int) :
    v.withExprId id = v := by
  cases attributed with
  | whole whole => exact withExprId_of_isWhole whole id
  | error named => exact withExprId_of_some named id
  | unknown => rfl

end Attributed

theorem Fresh.attributed (fresh : v.Fresh) (node : id ∈ nodes) :
    (v.withExprId id).Attributed nodes marked := by
  cases fresh with
  | whole whole =>
    rw [withExprId_of_isWhole whole]
    exact .whole whole
  | @error e unnamed =>
    have named : (e.withExprId id).exprId = some id := by
      rw [EvalError.withExprId, unnamed, Option.none_or]
    exact .error named node

/-! ### Strict operations -/

theorem unknownOf_attributed {s : UnknownSet} (attributed : ∀ v ∈ vs, v.Attributed nodes marked)
    (found : unknownOf vs = some s) : (unknown s).Attributed nodes marked := by
  obtain ⟨t, member⟩ : ∃ t, unknown t ∈ vs := by
    by_contra nowhere
    have known : unknownOf vs = none := unknownOf_eq_none.mpr fun w member => by
      cases w <;> first | rfl | exact absurd ⟨_, member⟩ nowhere
    rw [found] at known
    cases known
  obtain ⟨isMarked, blamed, -⟩ := (attributed _ member).of_unknown
  refine .unknown isMarked ?_ fun id seen => ?_
  · obtain ⟨id, blamed⟩ := List.exists_mem_of_ne_nil _ blamed
    exact List.ne_nil_of_mem ((mem_unknownOf found id).mpr ⟨t, member, blamed⟩)
  · obtain ⟨u, member, blamed⟩ := (mem_unknownOf found id).mp seen
    exact (attributed _ member).of_unknown.2.2 id blamed

theorem propagate_attributed (attributed : ∀ v ∈ vs, v.Attributed nodes marked)
    (passed : propagate vs = some v) : v.Attributed nodes marked := by
  unfold propagate at passed
  split at passed
  · next s found =>
    obtain rfl := Option.some.inj passed
    exact unknownOf_attributed attributed found
  · exact attributed v (List.mem_of_find?_eq_some passed)

theorem strict_attributed (attributed : ∀ v ∈ vs, v.Attributed nodes marked)
    (regular : (∀ v ∈ vs, v.isWhole = true) → result.Attributed nodes marked) :
    (strict vs result).Attributed nodes marked := by
  rw [strict]
  cases passed : propagate vs with
  | some v => exact propagate_attributed attributed passed
  | none =>
    exact regular fun v member =>
      (attributed v member).isWhole (regular_of_propagate passed v member)

theorem strict_withExprId_attributed (attributed : ∀ v ∈ vs, v.Attributed nodes marked)
    (node : id ∈ nodes) (regular : (∀ v ∈ vs, v.isWhole = true) → result.Fresh) :
    ((strict vs result).withExprId id).Attributed nodes marked := by
  rw [strict]
  cases passed : propagate vs with
  | some v =>
    have attributed := propagate_attributed attributed passed
    rw [Option.getD_some, attributed.withExprId_eq]
    exact attributed
  | none =>
    have whole : ∀ v ∈ vs, v.isWhole = true := fun v member =>
      (attributed v member).isWhole (regular_of_propagate passed v member)
    exact (regular whole).attributed node

theorem list_attributed (attributed : ∀ v ∈ vs, v.Attributed nodes marked) :
    (strict vs (list vs)).Attributed nodes marked :=
  strict_attributed attributed fun whole => .whole (itemsWhole_iff.mpr whole)

theorem mapOf_attributed {pairs : List (Value × Value)} (node : id ∈ nodes)
    (attributed : ∀ p ∈ pairs, p.1.Attributed nodes marked ∧ p.2.Attributed nodes marked) :
    (strict (pairs.flatMap fun p => [p.1, p.2]) ((mapOf pairs).withExprId id)).Attributed nodes
      marked := by
  refine strict_attributed (fun v member => ?_) fun whole => ?_
  · obtain ⟨p, listed, part⟩ := List.mem_flatMap.mp member
    exact forall_pair (attributed p listed).1 (attributed p listed).2 v part
  · have fresh : (mapOf pairs).Fresh := mapOf_fresh fun p member =>
      whole p.2 (List.mem_flatMap.mpr ⟨p, member, List.mem_cons_of_mem _ List.mem_cons_self⟩)
    exact fresh.attributed node

/-! ### Logical operations and calls -/

theorem combine_attributed (short : Bool) (left : l.Attributed nodes marked)
    (right : r.Attributed nodes marked) (node : id ∈ nodes) :
    (combine id short l r).Attributed nodes marked := by
  unfold combine
  split
  · exact left
  · split
    · exact right
    · split
      · exact .whole rfl
      · exact strict_attributed (forall_pair left right) fun _ =>
          (failure_fresh _ _).attributed node

theorem unguided_attributed (guard : g.Attributed nodes marked) (node : id ∈ nodes) :
    (unguided id g).Attributed nodes marked := by
  unfold unguided
  split
  · exact guard
  · exact (failure_fresh _ _).attributed node

theorem select_attributed (guard : g.Attributed nodes marked) (whenTrue : l.Attributed nodes marked)
    (whenFalse : r.Attributed nodes marked) (node : id ∈ nodes) :
    (select id g l r).Attributed nodes marked := by
  unfold select
  split
  · exact whenTrue
  · exact whenFalse
  · exact unguided_attributed guard node

/-! ### Objects -/

variable [HostObjects]

theorem hasField_attributed (operand : v.Attributed nodes marked) (field : String)
    (node : id ∈ nodes) : ((v.hasField field).withExprId id).Attributed nodes marked := by
  rw [hasField_eq_strict]
  refine strict_withExprId_attributed (forall_single operand) node fun whole => ?_
  exact hasField_fresh (whole v (by simp)) field

theorem testField_attributed (operand : v.Attributed nodes marked) (field : String)
    (access : Option (String × FieldAccess)) (node : id ∈ nodes) :
    (v.testField id field access).Attributed nodes marked := by
  unfold testField
  split
  · split
    · exact .whole rfl
    · exact hasField_attributed operand field node
  · exact hasField_attributed operand field node

variable [TrustedObjects.Sound]

theorem index_attributed (operand : v.Attributed nodes marked) (key : w.Attributed nodes marked)
    (node : id ∈ nodes) : ((v.index w).withExprId id).Attributed nodes marked := by
  rw [index_eq_strict]
  refine strict_withExprId_attributed (forall_pair operand key) node fun whole => ?_
  exact index_fresh (whole v (by simp)) (whole w (by simp))

theorem readField_fresh (whole : v.isWhole = true) (field : String)
    {access : Option (String × FieldAccess)}
    (fresh : ∀ typeName a, access = some (typeName, a) →
      ∀ w : Value, w.isWhole = true → (a.get w).Fresh) : (v.readField field access).Fresh := by
  unfold readField
  split
  · next typeName a =>
    split
    · exact fresh typeName a rfl _ whole
    · exact selectField_fresh whole _
  · exact selectField_fresh whole _

/-- Calls of the standard library pass the failures of their arguments on, except to the guards of
loops, which do not fail. -/
theorem called_attributed (function : String) (node : id ∈ nodes)
    (attributed : ∀ v ∈ vs, v.Attributed nodes marked) :
    (called id function ((Registry.standard.find function).filter (·.takes vs.length))
      vs).Attributed nodes marked := by
  rcases Standard.strict_or_guarded function vs.length with strict | ⟨one, guarded⟩
  · rw [called, strict]
    exact strict_attributed attributed fun whole =>
      (dispatch_standard_fresh function vs.length whole).attributed node
  · obtain ⟨v, rfl⟩ := List.length_eq_one_iff.mp one
    rw [guarded, called_guard]
    exact .whole rfl

end ExprEngine.Value
