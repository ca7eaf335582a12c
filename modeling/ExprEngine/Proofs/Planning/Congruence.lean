import ExprEngine.Proofs.Planning.Prepared

/-!
# Plans with the same parts

Plans of one form are the same when their parts are the same. The id of the range of a loop shows
in the error of a range that cannot be iterated, so it has to agree, too.
-/

namespace ExprEngine

variable [HostObjects]

namespace Value

/-- A constant key is read once, but selects as a computed one does. -/
theorem indexConstant_eq (v key : Value) : v.indexConstant key = v.index key := by
  unfold indexConstant
  cases isKey : Key.ofValue? key with
  | none => rfl
  | some k =>
    obtain rfl := Key.toValue_of_ofValue? isKey
    cases v with
    | map entries =>
      have regular : ∀ w ∈ [map entries, k.toValue], w.isFailure = false := by
        intro w member
        rcases List.mem_cons.mp member with rfl | member
        · rfl
        · rw [List.mem_singleton.mp member, Key.isFailure_toValue]
      rw [index, strict_regular regular]
      simp only [indexKey, Key.ofValue?_toValue]
    | _ => rfl

end Value

namespace Plan

variable {provider : Provider}

section Lists

variable {ps qs : List Plan}

theorem map_value_congr (same : List.Forall₂ (Same provider) ps qs) (scope : Scope) :
    ps.map (fun p => (eval provider p false scope).value) =
      qs.map fun q => (eval provider q false scope).value := by
  induction same with
  | nil => rfl
  | cons first _ ih => rw [List.map_cons, List.map_cons, first.value, ih]

theorem call_same (id : Int) (function : String) (overloads : List Overload)
    (same : List.Forall₂ (Same provider) ps qs) :
    Same provider (call id function ps overloads) (call id function qs overloads) :=
  .of_value rfl rfl fun scope => by rw [value_call, value_call, map_value_congr same]

theorem list_same (id : Int) (same : List.Forall₂ (Same provider) ps qs) :
    Same provider (list id ps) (list id qs) :=
  .of_value rfl rfl fun scope => by rw [value_list, value_list, map_value_congr same]

end Lists

theorem mapping_same (id : Int) {ps qs : List (Plan × Plan)}
    (same : List.Forall₂ (fun p q => Same provider p.1 q.1 ∧ Same provider p.2 q.2) ps qs) :
    Same provider (mapping id ps) (mapping id qs) := by
  refine .of_value rfl rfl fun scope => ?_
  have pairs : ps.map (fun e => ((eval provider e.1 false scope).value,
      (eval provider e.2 false scope).value)) =
      qs.map fun e => ((eval provider e.1 false scope).value,
        (eval provider e.2 false scope).value) := by
    induction same with
    | nil => rfl
    | cons first _ ih => rw [List.map_cons, List.map_cons, first.1.value, first.2.value, ih]
  rw [value_mapping, value_mapping, pairs]

theorem object_same (id : Int) (typeName : String) {ps qs : List (String × Plan)}
    (same : List.Forall₂ (fun p q => p.1 = q.1 ∧ Same provider p.2 q.2) ps qs) :
    Same provider (object id typeName ps) (object id typeName qs) := by
  refine .of_value rfl rfl fun scope => ?_
  have fields : ps.map (fun f => (f.1, (eval provider f.2 false scope).value)) =
      qs.map fun f => (f.1, (eval provider f.2 false scope).value) := by
    induction same with
    | nil => rfl
    | cons first _ ih => rw [List.map_cons, List.map_cons, first.1, first.2.value, ih]
  rw [value_object, value_object, fields]

variable {p p' q q' r r' s s' t t' : Plan}

theorem both_same (id : Int) (left : Same provider p p') (right : Same provider q q') :
    Same provider (both id p q) (both id p' q') :=
  .of_value rfl rfl fun scope => by rw [value_both, value_both, left.value, right.value]

theorem either_same (id : Int) (left : Same provider p p') (right : Same provider q q') :
    Same provider (either id p q) (either id p' q') :=
  .of_value rfl rfl fun scope => by rw [value_either, value_either, left.value, right.value]

theorem conditional_same (id : Int) (guard : Same provider p p') (whenTrue : Same provider q q')
    (whenFalse : Same provider r r') :
    Same provider (conditional id p q r) (conditional id p' q' r') where
  value scope := by
    rw [value_conditional, value_conditional, guard.value, whenTrue.value, whenFalse.value]
  selected :=
    Attribute.conditional_same id guard.value whenTrue.selected whenFalse.selected

theorem membership_same (id : Int) (items : List Value) (keys : List Key) (function : String)
    (overloads : List Overload) (element : Same provider p p') :
    Same provider (membership id p items keys function overloads)
      (membership id p' items keys function overloads) :=
  .of_value rfl rfl fun scope => by rw [value_membership, value_membership, element.value]

theorem search_same (id : Int) (source : String) (pattern : Regex.Pattern) (function : String)
    (overloads : List Overload) (text : Same provider p p') :
    Same provider (search id p source pattern function overloads)
      (search id p' source pattern function overloads) :=
  .of_value rfl rfl fun scope => by rw [value_search, value_search, text.value]

theorem presence_same (id : Int) (field : String) (access : Option (String × FieldAccess))
    (operand : Same provider p p') :
    Same provider (presence id p field access) (presence id p' field access) :=
  .of_value rfl rfl fun scope => by rw [value_presence, value_presence, operand.value]

theorem qualify_same (id : Int) (operand : Same provider p p') {a b : Qualifier}
    (same : List.Forall₂ Step.Same (steps provider [a]) (steps provider [b])) :
    Same provider (p.qualify id a) (p'.qualify id b) := by
  apply Same.of_attribute
  intro qs rs more everything scope
  rw [← Attribute.qualifyAll_cons, ← Attribute.qualifyAll_cons]
  refine operand.selected _ _ ?_ everything scope
  rw [steps_cons, steps_cons provider b]
  exact List.rel_append same more

theorem indexed_computed (id : Int) (p q : Plan) :
    Same provider (p.indexed id q) (p.qualify id (.computed id q)) := by
  apply qualify_same id (.refl p)
  cases constant : q.asConst? with
  | none => exact steps_same_refl provider _
  | some v =>
    have value := @value_of_asConst provider _ q v constant false
    exact .cons ⟨rfl, fun scope => (value scope).symm, fun scope w => by
      simp [value, Value.indexConstant_eq]⟩ .nil

theorem indexed_same (id : Int) (operand : Same provider p p') (key : Same provider q q') :
    Same provider (p.indexed id q) (p'.indexed id q') := by
  have keys : List.Forall₂ Step.Same (steps provider [.computed id q])
      (steps provider [.computed id q']) :=
    .cons ⟨rfl, key.value, fun scope v => by simp [key.value]⟩ .nil
  exact (indexed_computed id p q).trans
    ((qualify_same id operand keys).trans (indexed_computed id p' q').symm)

/-- A loop ends alike when its parts do, and the error of a range that cannot be iterated names
the same node. -/
theorem loop_value {id : Int} {iterVar accuVar : String} {everything : Bool}
    (range : Same provider p p') (init : Same provider q q') (condition : Same provider r r')
    (step : Same provider s s') (result : Same provider t t')
    (named : p.id = p'.id ∨ ∀ scope, (eval provider p false scope).value.isFailure = true ∨
      (eval provider p false scope).value.elements?.isSome = true) (scope : Scope) :
    (eval provider (loop id iterVar p accuVar q r s t) everything scope).value =
      (eval provider (loop id iterVar p' accuVar q' r' s' t') everything scope).value := by
  rw [value_loop, value_loop]
  simp only [← range.value, ← init.value, ← result.value]
  split
  · rfl
  · next regular =>
    cases elements : (eval provider p false scope).value.elements? with
    | none =>
      rcases named with same | iterable
      · rw [same]
      · rcases iterable scope with failed | ranged
        · exact absurd failed regular
        · simp [elements] at ranged
    | some items =>
      have same := @iterate_congr everything _ _ _ _
        (fun accu x => condition.value (inside scope accuVar iterVar accu x))
        (fun accu x => step.value (inside scope accuVar iterVar accu x)) items
        (eval provider q false scope).value
      simp only [same]

theorem loop_value_apart {id : Int} {iterVar accuVar : String} {everything : Bool} {scope : Scope}
    (range : (eval provider p false scope).value = (eval provider p' false scope).value)
    (regular : (eval provider p false scope).value.isFailure = false)
    (rigid : (eval provider p false scope).value.elements? = none) (apart : p.id ≠ p'.id) :
    (eval provider (loop id iterVar p accuVar q r s t) everything scope).value ≠
      (eval provider (loop id iterVar p' accuVar q' r' s' t') everything scope).value := by
  rw [value_loop, value_loop]
  simp only [← range, regular, rigid, Bool.false_eq_true, ↓reduceIte]
  intro same
  simp only [Value.notIterable, Value.failure, Value.withExprId_error, Value.error.injEq,
    EvalError.withExprId, EvalError.mk.injEq, Option.none_or, Option.some.injEq] at same
  exact apart same.2.2.1

end Plan

end ExprEngine
