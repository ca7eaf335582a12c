import ExprEngine.Proofs.Whole.Value

/-!
# Overloads on whole values

The standard overloads answer whole arguments with whole values or fresh errors, and so do the
values that receive calls.
-/

namespace ExprEngine

namespace Value

open Number Time

variable [TrustedObjects] {v : Value}

theorem map_getD_fresh {α : Type} (found : Option α) {f : α → Value}
    (whole : ∀ a, (f a).isWhole = true) {other : Value} (fresh : other.Fresh) :
    ((found.map f).getD other).Fresh := by
  cases found with
  | none => exact fresh
  | some a => exact .whole (whole a)

theorem convertTo_fresh {target : ValueType} {r : Value} (h : v.convertTo target = .ok r) :
    r.Fresh := by
  have reading : ∀ {α : Type} (found : Option α) (f : α → Value), (∀ a, (f a).isWhole = true) →
      ((found.map f).getD (conversionError v.valueType target)).Fresh :=
    fun found f whole => map_getD_fresh found whole (failure_fresh _ _)
  have ranged : ∀ {α : Type} (found : Option α) (f : α → Value), (∀ a, (f a).isWhole = true) →
      ((found.map f).getD (rangeError v target)).Fresh :=
    fun found f whole => map_getD_fresh found whole (failure_fresh _ _)
  unfold convertTo at h
  simp only at h
  -- One case for each conversion, in the order of the definition.
  split at h
  · obtain rfl := Except.ok.inj h
    exact ranged _ _ fun _ => rfl
  · obtain rfl := Except.ok.inj h
    exact .whole rfl
  · obtain rfl := Except.ok.inj h
    exact .whole rfl
  · obtain rfl := Except.ok.inj h
    exact ranged _ _ fun _ => rfl
  · obtain rfl := Except.ok.inj h
    exact ranged _ _ fun _ => rfl
  · obtain rfl := Except.ok.inj h
    exact .whole rfl
  · obtain rfl := Except.ok.inj h
    exact .whole rfl
  · obtain rfl := Except.ok.inj h
    exact ranged _ _ fun _ => rfl
  · obtain rfl := Except.ok.inj h
    exact ranged _ _ fun _ => rfl
  · obtain rfl := Except.ok.inj h
    exact .whole rfl
  · obtain rfl := Except.ok.inj h
    exact reading _ _ fun _ => rfl
  · obtain rfl := Except.ok.inj h
    exact reading _ _ fun _ => rfl
  · obtain rfl := Except.ok.inj h
    exact reading _ _ fun _ => rfl
  · obtain rfl := Except.ok.inj h
    exact reading _ _ fun _ => rfl
  · obtain rfl := Except.ok.inj h
    exact .whole rfl
  · split at h
    · obtain rfl := Except.ok.inj h
      exact .whole rfl
    · obtain rfl := Except.ok.inj h
      exact failure_fresh _ _
    · cases h
  · obtain rfl := Except.ok.inj h
    exact reading _ _ fun _ => rfl
  · obtain rfl := Except.ok.inj h
    exact reading _ _ fun _ => rfl
  · obtain rfl := Except.ok.inj h
    exact .whole rfl
  · obtain rfl := Except.ok.inj h
    exact .whole rfl
  · obtain rfl := Except.ok.inj h
    exact .whole rfl
  · obtain rfl := Except.ok.inj h
    exact .whole rfl
  · obtain rfl := Except.ok.inj h
    exact .whole rfl
  · obtain rfl := Except.ok.inj h
    exact failure_fresh _ _

theorem convert_fresh (whole : v.isWhole = true) {target : ValueType} {r : Value}
    (h : v.convert target = .ok r) : r.Fresh := by
  unfold convert at h
  simp only [isFailure_of_isWhole whole, Bool.false_eq_true, ↓reduceIte] at h
  split at h
  · obtain rfl := Except.ok.inj h
    exact .whole rfl
  · split at h
    · obtain rfl := Except.ok.inj h
      exact .whole whole
    · exact convertTo_fresh h

/-! ### Methods -/

theorem stringMethod?_fresh {s part function : String} {r : Value}
    (h : stringMethod? s part function = some r) : r.Fresh := by
  unfold stringMethod? at h
  split at h
  · obtain rfl := Option.some.inj h
    exact .whole rfl
  · obtain rfl := Option.some.inj h
    exact .whole rfl
  · obtain rfl := Option.some.inj h
    exact .whole rfl
  · cases h

theorem timestampMethod?_fresh {t : Timestamp} {function : String} {args : List Value} {r : Value}
    (h : timestampMethod? t function args = .ok (some r)) : r.Fresh := by
  unfold timestampMethod? at h
  simp only at h
  split at h
  · obtain ⟨f, -, rfl⟩ := Option.map_eq_some_iff.mp (Except.ok.inj h)
    exact .whole rfl
  · split at h
    · obtain ⟨f, -, rfl⟩ := Option.map_eq_some_iff.mp (Except.ok.inj h)
      exact .whole rfl
    · obtain rfl := Option.some.inj (Except.ok.inj h)
      exact failure_fresh _ _
    · cases h
  · cases h

theorem durationMethod?_fresh {d : Duration} {function : String} {r : Value}
    (h : durationMethod? d function = some r) : r.Fresh := by
  unfold durationMethod? at h
  split at h
  · obtain rfl := Option.some.inj h
    exact .whole rfl
  · obtain rfl := Option.some.inj h
    exact .whole rfl
  · obtain rfl := Option.some.inj h
    exact .whole rfl
  · obtain rfl := Option.some.inj h
    exact .whole rfl
  · cases h

theorem unlessFalse_fresh (v : Value) : (Standard.unlessFalse v).Fresh := by
  cases v <;> exact .whole rfl

theorem ordered_fresh (id : String) (holds : Int → Bool) {a b : Value} (left : a.isWhole = true)
    (right : b.isWhole = true) : (Standard.ordered id holds a b).Fresh := by
  have compared := compare_fresh left right
  unfold Standard.ordered
  split
  · exact .whole rfl
  · next e failed =>
    split
    · exact failure_fresh _ _
    · rwa [failed] at compared
  · exact compared

theorem attempt_fresh {x : Except Panic Value} (fresh : ∀ r, x = .ok r → r.Fresh) :
    (Run.attempt x).value.Fresh := by
  cases x with
  | ok r => exact fresh r rfl
  | error p => exact .error rfl

variable [HostObjects] [TrustedObjects.Sound]

theorem method?_fresh {function : String} {args : List Value} {r : Value}
    (whole : v.isWhole = true) (given : ∀ a ∈ args, a.isWhole = true)
    (h : v.method? function args = .ok (some r)) : r.Fresh := by
  unfold method? at h
  split at h
  · exact stringMethod?_fresh (Except.ok.inj h)
  · exact timestampMethod?_fresh h
  · exact durationMethod?_fresh (Except.ok.inj h)
  · exact TrustedObjects.Sound.answer whole given (Except.ok.inj h)
  · cases h

theorem receive_fresh {function : String} {args : List Value} {r : Value} (whole : v.isWhole = true)
    (given : ∀ a ∈ args, a.isWhole = true) (h : v.receive function args = .ok r) : r.Fresh := by
  have regular : propagate (v :: args) = none :=
    propagate_regular (List.forall_mem_cons.mpr
      ⟨isFailure_of_isWhole whole, fun a member => isFailure_of_isWhole (given a member)⟩)
  unfold receive at h
  rw [regular] at h
  simp only at h
  split at h
  · cases answer : v.method? function args with
    | error p =>
      rw [answer] at h
      cases h
    | ok found =>
      rw [answer] at h
      obtain rfl := Except.ok.inj h
      cases found with
      | none => exact failure_fresh _ _
      | some r => exact method?_fresh whole given answer
  · obtain rfl := Except.ok.inj h
    exact failure_fresh _ _

end Value

namespace Overload

variable [TrustedObjects]

def KeepsWhole (o : Overload) : Prop :=
  ∀ args, (∀ a ∈ args, a.isWhole = true) → (o.result args).Fresh

theorem unary_keepsWhole {o : Overload} {f : Value → Except Panic Value}
    (unary : o.implementation = .unary f)
    (fresh : ∀ a r, a.isWhole = true → f a = .ok r → r.Fresh) : o.KeepsWhole := by
  intro args whole
  unfold result run?
  rw [unary]
  cases args with
  | nil => exact Value.failure_fresh _ _
  | cons a rest =>
    cases rest with
    | cons b rest => exact Value.failure_fresh _ _
    | nil =>
      cases answer : f a with
      | error p =>
        simp only [answer]
        exact .error rfl
      | ok r =>
        simp only [answer]
        exact fresh a r (whole a List.mem_cons_self) answer

theorem binary_keepsWhole {o : Overload} {f : Value → Value → Except Panic Value}
    (binary : o.implementation = .binary f)
    (fresh : ∀ a b r, a.isWhole = true → b.isWhole = true → f a b = .ok r → r.Fresh) :
    o.KeepsWhole := by
  intro args whole
  unfold result run?
  rw [binary]
  match args with
  | [] | [_] | _ :: _ :: _ :: _ => exact Value.failure_fresh _ _
  | [a, b] =>
    cases answer : f a b with
    | error p =>
      simp only [answer]
      exact .error rfl
    | ok r =>
      simp only [answer]
      exact fresh a b r (whole a List.mem_cons_self)
        (whole b (List.mem_cons_of_mem _ List.mem_cons_self)) answer

end Overload

namespace Standard

open Value

section

variable [TrustedObjects]

theorem unary_keepsWhole (id : String) {f : Value → Value}
    (fresh : ∀ a, a.isWhole = true → (f a).Fresh) : (unary id f).KeepsWhole :=
  Overload.unary_keepsWhole rfl fun a r whole answer => by
    obtain rfl := Except.ok.inj answer
    exact fresh a whole

theorem binary_keepsWhole (id : String) {f : Value → Value → Value}
    (fresh : ∀ a b, a.isWhole = true → b.isWhole = true → (f a b).Fresh) :
    (binary id f).KeepsWhole :=
  Overload.binary_keepsWhole rfl fun a b r left right answer => by
    obtain rfl := Except.ok.inj answer
    exact fresh a b left right

theorem conversion_keepsWhole (id : String) (target : ValueType) :
    (conversion id target).KeepsWhole :=
  Overload.unary_keepsWhole rfl fun _ _ whole answer => convert_fresh whole answer

theorem notStrictlyFalse_keepsWhole (id : String) : (notStrictlyFalse id).KeepsWhole :=
  unary_keepsWhole id fun a _ => unlessFalse_fresh a

theorem ordering_keepsWhole (id : String) (holds : Int → Bool) : (ordering id holds).KeepsWhole :=
  binary_keepsWhole id fun _ _ => ordered_fresh id holds

variable [HostObjects]

theorem equal_keepsWhole : (binary Operator.equals Value.equal).KeepsWhole :=
  binary_keepsWhole _ fun _ _ => equal_fresh

theorem notEquals_keepsWhole :
    (binary Operator.notEquals fun a b => (a.equal b).logicalNot).KeepsWhole :=
  binary_keepsWhole _ fun a b left right => by
    obtain ⟨r, same⟩ := equal_whole a b left right
    rw [same]
    exact .whole rfl

variable [TrustedObjects.Sound]

theorem stringFunction_keepsWhole (id : String) : (stringFunction id).KeepsWhole :=
  Overload.binary_keepsWhole rfl fun _ _ _ left right =>
    receive_fresh left (forall_single right)

theorem keepsWhole : ∀ o ∈ overloads, o.KeepsWhole := by
  unfold overloads
  simp only [List.forall_mem_cons, List.not_mem_nil, false_imp_iff, implies_true, and_true]
  exact ⟨binary_keepsWhole _ fun _ _ => add_fresh,
    binary_keepsWhole _ fun _ _ => subtract_fresh,
    binary_keepsWhole _ fun _ _ => multiply_fresh,
    binary_keepsWhole _ fun _ _ => divide_fresh,
    binary_keepsWhole _ fun _ _ => modulo_fresh,
    unary_keepsWhole _ fun _ => negate_fresh,
    unary_keepsWhole _ fun _ => logicalNot_fresh,
    equal_keepsWhole, notEquals_keepsWhole,
    ordering_keepsWhole _ _, ordering_keepsWhole _ _, ordering_keepsWhole _ _,
    ordering_keepsWhole _ _,
    binary_keepsWhole _ fun _ _ => index_fresh,
    binary_keepsWhole _ fun _ _ elem whole => contains_fresh whole elem,
    binary_keepsWhole _ fun _ _ elem whole => contains_fresh whole elem,
    unary_keepsWhole _ fun _ => size_fresh,
    binary_keepsWhole _ fun _ _ => search_fresh,
    stringFunction_keepsWhole _, stringFunction_keepsWhole _, stringFunction_keepsWhole _,
    notStrictlyFalse_keepsWhole _, notStrictlyFalse_keepsWhole _,
    conversion_keepsWhole _ _, conversion_keepsWhole _ _, conversion_keepsWhole _ _,
    conversion_keepsWhole _ _, conversion_keepsWhole _ _, conversion_keepsWhole _ _,
    conversion_keepsWhole _ _, conversion_keepsWhole _ _, conversion_keepsWhole _ _,
    unary_keepsWhole _ fun _ => .whole⟩

end

variable [HostObjects]

theorem strict_or_guard : ∀ o ∈ overloads, o.nonStrict = false ∨ ∃ id, o = notStrictlyFalse id := by
  unfold overloads
  simp only [List.forall_mem_cons, List.not_mem_nil, false_imp_iff, implies_true, and_true]
  exact ⟨.inl rfl, .inl rfl, .inl rfl, .inl rfl, .inl rfl, .inl rfl, .inl rfl, .inl rfl, .inl rfl,
    .inl rfl, .inl rfl, .inl rfl, .inl rfl, .inl rfl, .inl rfl, .inl rfl, .inl rfl, .inl rfl,
    .inl rfl, .inl rfl, .inl rfl, .inr ⟨_, rfl⟩, .inr ⟨_, rfl⟩, .inl rfl, .inl rfl, .inl rfl,
    .inl rfl, .inl rfl, .inl rfl, .inl rfl, .inl rfl, .inl rfl, .inl rfl⟩

/-- Under one name and number of arguments there are strict overloads only, or a guard alone. -/
theorem strict_or_guarded (function : String) (count : Nat) :
    let overloads := (Registry.standard.find function).filter (·.takes count)
    overloads.any Overload.nonStrict = false ∨
      count = 1 ∧ overloads = [notStrictlyFalse function] := by
  intro overloads
  cases nonStrict : overloads.any Overload.nonStrict with
  | false => exact .inl rfl
  | true =>
    obtain ⟨o, member, lax⟩ := List.any_eq_true.mp nonStrict
    have standard : o ∈ Standard.overloads :=
      Registry.standard_overloads ▸ (List.mem_filter.mp (List.mem_filter.mp member).1).1
    obtain ⟨found, takes⟩ := List.mem_filter.mp member
    rcases strict_or_guard o standard with strict | ⟨name, rfl⟩
    · rw [strict] at lax
      cases lax
    · have named : name = function := eq_of_beq (List.mem_filter.mp found).2
      subst named
      have single := Registry.find_standard standard
      change Registry.standard.find name = _ at single
      have one : 1 = count := eq_of_beq takes
      refine .inr ⟨one.symm, ?_⟩
      change (Registry.standard.find name).filter _ = _
      rw [single]
      simp [takes]

end Standard

section

variable [HostObjects] [TrustedObjects] [TrustedObjects.Sound]

theorem dispatch_fresh {function : String} {candidates : List Overload} {args : List Value}
    (keeps : ∀ o ∈ candidates, o.KeepsWhole) (whole : ∀ a ∈ args, a.isWhole = true) :
    (dispatch function candidates args).value.Fresh := by
  have regular : Value.propagate args = none :=
    Value.propagate_regular fun a member => Value.isFailure_of_isWhole (whole a member)
  unfold dispatch
  rw [regular]
  split
  · next o found =>
    have fresh := keeps o (List.mem_of_find?_eq_some found) args whole
    split <;> rwa [Overload.value_invoke]
  · cases args with
    | nil => exact Value.failure_fresh _ _
    | cons receiver rest =>
      simp only [receiveCall, apply_ite Run.value]
      split
      · obtain ⟨first, others⟩ := List.forall_mem_cons.mp whole
        exact Value.attempt_fresh fun r => Value.receive_fresh first others
      · exact Value.failure_fresh _ _

theorem dispatch_standard_fresh (function : String) (count : Nat) {args : List Value}
    (whole : ∀ a ∈ args, a.isWhole = true) :
    (dispatch function ((Registry.standard.find function).filter (·.takes count))
      args).value.Fresh := by
  refine dispatch_fresh (fun o member => ?_) whole
  have registered : o ∈ Registry.standard.overloads :=
    (List.mem_filter.mp (List.mem_filter.mp member).1).1
  exact Standard.keepsWhole o (Registry.standard_overloads ▸ registered)

end

end ExprEngine
