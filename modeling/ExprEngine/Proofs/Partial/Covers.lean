import ExprEngine.Proofs.Evaluation.Value
import ExprEngine.Proofs.Value.Unknowns
import Mathlib.Data.List.Forall2

/-!
# Covering values

An unknown covers every value, and any other value covers itself only. Operations keep this order:
the result for covering operands covers the result for the operands that they cover. Covering
loosely, errors are not compared, on either side.
-/

namespace ExprEngine.Value

/-- The value becomes the other one when more is known; loosely, unless one of them fails. -/
def Covers (loose : Bool) (v w : Value) : Prop :=
  v.isUnknown = true ∨ v = w ∨ loose = true ∧ (v.isFailure = true ∨ w.isFailure = true)

variable {loose : Bool} {v w l r l' r' : Value}

theorem Covers.refl (loose : Bool) (v : Value) : Covers loose v v := .inr (.inl rfl)

theorem Covers.eq (covers : Covers false v w) (known : v.isUnknown = false) : v = w := by
  rcases covers with unknown | same | ⟨isLoose, -⟩
  · rw [known] at unknown
    cases unknown
  · exact same
  · cases isLoose

theorem exists_of_isUnknown (h : v.isUnknown = true) : ∃ s, v = unknown s := by
  cases v <;> first | exact ⟨_, rfl⟩ | simp [isUnknown] at h

theorem isFailure_of_isUnknown (h : v.isUnknown = true) : v.isFailure = true := by
  obtain ⟨s, rfl⟩ := exists_of_isUnknown h
  rfl

theorem isError_of_isUnknown (h : v.isUnknown = true) : v.isError = false := by
  obtain ⟨s, rfl⟩ := exists_of_isUnknown h
  rfl

theorem isFailure_of_isError (h : v.isError = true) : v.isFailure = true := by
  cases v <;> first | rfl | simp [isError] at h

theorem isUnknown_of_isFailure (failed : v.isFailure = true) (regular : v.isError = false) :
    v.isUnknown = true := by
  cases v <;> first | rfl | simp_all [isFailure, isError]

theorem Covers.loosely (covers : Covers true v w) (known : v.isUnknown = false) :
    w = v ∨ v.isError = true ∨ w.isFailure = true := by
  rcases covers with unknown | same | ⟨-, failed | failed⟩
  · rw [known] at unknown
    cases unknown
  · exact .inl same.symm
  · refine .inr (.inl ?_)
    by_contra regular
    have unknown := isUnknown_of_isFailure failed (by simpa using regular)
    rw [known] at unknown
    cases unknown
  · exact .inr (.inr failed)

theorem Covers.of_failure (isLoose : loose = true)
    (failed : v.isFailure = true ∨ w.isFailure = true) :
    Covers loose v w := .inr (.inr ⟨isLoose, failed⟩)

@[simp] theorem isUnknown_withExprId (v : Value) (id : Int) :
    (v.withExprId id).isUnknown = v.isUnknown := by
  cases v <;> rfl

theorem Covers.map (covers : Covers loose v w) (f : Value → Value)
    (unknowns : ∀ u : Value, u.isUnknown = true → (f u).isUnknown = true)
    (failures : ∀ u : Value, u.isFailure = true → (f u).isFailure = true) :
    Covers loose (f v) (f w) := by
  rcases covers with unknown | rfl | ⟨isLoose, failed⟩
  · exact .inl (unknowns v unknown)
  · exact .refl loose _
  · exact .of_failure isLoose (failed.imp (failures v) (failures w))

theorem Covers.withExprId (covers : Covers loose v w) (id : Int) :
    Covers loose (v.withExprId id) (w.withExprId id) :=
  covers.map (·.withExprId id) (fun u unknown => by rwa [isUnknown_withExprId])
    fun u failed => by rwa [isFailure_withExprId]

/-! ### Strict operations -/

theorem strict_unknown {vs : List Value} (h : ∃ v ∈ vs, v.isUnknown = true) (result : Value) :
    (strict vs result).isUnknown = true := by
  obtain ⟨s, passed, -⟩ := propagate_unknown h
  rw [strict, passed]
  rfl

theorem isFailure_of_propagate {vs : List Value} (passed : propagate vs = some v) :
    v.isFailure = true := by
  unfold propagate at passed
  split at passed
  · obtain rfl := Option.some.inj passed
    rfl
  · exact isFailure_of_isError (List.find?_some passed)

theorem regular_of_propagate {vs : List Value} (passed : propagate vs = none) :
    ∀ v ∈ vs, v.isFailure = false := by
  intro v member
  unfold propagate at passed
  split at passed
  · cases passed
  · next known =>
    have regular : v.isError = false := by
      simpa using List.find?_eq_none.mp passed v member
    by_contra failed
    have unknown := unknownOf_isSome
      ⟨v, member, isUnknown_of_isFailure (by simpa using failed) regular⟩
    rw [known] at unknown
    cases unknown

theorem strict_isFailure {vs : List Value} (h : ∃ v ∈ vs, v.isFailure = true) (result : Value) :
    (strict vs result).isFailure = true := by
  rw [strict]
  cases passed : propagate vs with
  | some v => exact isFailure_of_propagate passed
  | none =>
    obtain ⟨v, member, failed⟩ := h
    rw [regular_of_propagate passed v member] at failed
    cases failed

theorem eq_of_covers {vs ws : List Value} (covers : List.Forall₂ (Covers loose) vs ws) :
    (∃ v ∈ vs, v.isUnknown = true) ∨ vs = ws ∨
      loose = true ∧ ((∃ v ∈ vs, v.isFailure = true) ∨ ∃ w ∈ ws, w.isFailure = true) := by
  induction covers with
  | nil => exact .inr (.inl rfl)
  | cons first _ ih =>
    rcases first with unknown | rfl | ⟨isLoose, failed⟩
    · exact .inl ⟨_, List.mem_cons_self, unknown⟩
    · rcases ih with ⟨v, member, unknown⟩ | rfl | ⟨isLoose, failed⟩
      · exact .inl ⟨v, List.mem_cons_of_mem _ member, unknown⟩
      · exact .inr (.inl rfl)
      · refine .inr (.inr ⟨isLoose, failed.imp ?_ ?_⟩)
        · exact fun ⟨v, member, failed⟩ => ⟨v, List.mem_cons_of_mem _ member, failed⟩
        · exact fun ⟨w, member, failed⟩ => ⟨w, List.mem_cons_of_mem _ member, failed⟩
    · exact .inr (.inr ⟨isLoose, failed.imp (fun failed => ⟨_, List.mem_cons_self, failed⟩)
        fun failed => ⟨_, List.mem_cons_self, failed⟩⟩)

theorem strict_covers {vs ws : List Value} (covers : List.Forall₂ (Covers loose) vs ws)
    (f : List Value → Value) : Covers loose (strict vs (f vs)) (strict ws (f ws)) := by
  rcases eq_of_covers covers with unknown | rfl | ⟨isLoose, failed⟩
  · exact .inl (strict_unknown unknown _)
  · exact .refl loose _
  · exact .of_failure isLoose
      (failed.imp (strict_isFailure · _) (strict_isFailure · _))

theorem called_covers [HostObjects] (id : Int) (function : String) {overloads : List Overload}
    (strict : overloads.any Overload.nonStrict = false) {vs ws : List Value}
    (covers : List.Forall₂ (Covers loose) vs ws) :
    Covers loose (called id function overloads vs) (called id function overloads ws) := by
  simp only [called, strict, Bool.false_eq_true, ↓reduceIte]
  exact strict_covers covers fun args => (dispatch function overloads args).value.withExprId id

/-! ### Logical operations -/

theorem decides_of_isUnknown (h : v.isUnknown = true) (short : Bool) :
    v.decides short = false := by
  obtain ⟨s, rfl⟩ := exists_of_isUnknown h
  rfl

theorem combine_unknown (id : Int) {short : Bool} (left : l.decides short = false)
    (right : r.decides short = false) (unknown : l.isUnknown = true ∨ r.isUnknown = true) :
    (combine id short l r).isUnknown = true := by
  have found : ∃ v ∈ [l, r], v.isUnknown = true := by simpa using unknown
  unfold combine
  simp only [left, right, Bool.false_eq_true, ↓reduceIte]
  split
  · simp [isUnknown] at unknown
  · exact strict_unknown found _

theorem combine_cases (id : Int) (short : Bool) (l r : Value) :
    (l = bool short ∨ r = bool short) ∧ combine id short l r = bool short ∨
      (l = bool (!short) ∧ r = bool (!short)) ∧ combine id short l r = bool (!short) ∨
      (combine id short l r).isFailure = true := by
  unfold combine
  split
  · next decided => exact .inl ⟨.inl (eq_of_decides decided), eq_of_decides decided⟩
  · next first =>
    split
    · next decided => exact .inl ⟨.inr (eq_of_decides decided), eq_of_decides decided⟩
    · next second =>
      right
      split
      · next a b =>
        refine .inl ⟨⟨?_, ?_⟩, rfl⟩
        · cases a <;> cases short <;> first | rfl | exact absurd rfl first
        · cases b <;> cases short <;> first | rfl | exact absurd rfl second
      · right
        cases passed : propagate [l, r] with
        | some v => exact isFailure_of_propagate passed
        | none => rfl

theorem Covers.bool_inj {a b : Bool} (covers : Covers loose (bool a) (bool b)) : a = b := by
  rcases covers with unknown | same | ⟨-, failed | failed⟩
  · cases unknown
  · exact Value.bool.inj same
  · cases failed
  · cases failed

/-- Where neither of them fails, conjunctions or disjunctions of loosely covering operands agree. -/
theorem combine_loose (id : Int) (short : Bool) (left : Covers true l l')
    (right : Covers true r r') :
    Covers true (combine id short l r) (combine id short l' r') := by
  have apart : ∀ a : Bool, a ≠ !a := by decide
  rcases combine_cases id short l r with ⟨decided, value⟩ | ⟨⟨rfl, rfl⟩, value⟩ | failed
  · rcases combine_cases id short l' r' with ⟨-, value'⟩ | ⟨⟨rfl, rfl⟩, value'⟩ | failed
    · rw [value, value']
      exact .refl true _
    · rcases decided with rfl | rfl
      · exact absurd left.bool_inj (apart short)
      · exact absurd right.bool_inj (apart short)
    · exact .of_failure rfl (.inr failed)
  · rcases combine_cases id short l' r' with ⟨decided, value'⟩ | ⟨-, value'⟩ | failed
    · rcases decided with rfl | rfl
      · exact absurd left.bool_inj.symm (apart short)
      · exact absurd right.bool_inj.symm (apart short)
    · rw [value, value']
      exact .refl true _
    · exact .of_failure rfl (.inr failed)
  · exact .of_failure rfl (.inl failed)

theorem combine_exact (id : Int) (short : Bool) (left : Covers false l l')
    (right : Covers false r r') :
    Covers false (combine id short l r) (combine id short l' r') := by
  by_cases unknown : l.isUnknown = true
  · have open_l := decides_of_isUnknown unknown short
    by_cases decided : r.decides short = true
    · have known : r.isUnknown = false := by rw [eq_of_decides decided]; rfl
      obtain rfl := right.eq known
      right; left
      unfold combine
      simp only [open_l, decided, Bool.false_eq_true, ↓reduceIte]
      split
      · next early => rw [eq_of_decides decided, eq_of_decides early]
      · rfl
    · exact .inl (combine_unknown id open_l (by simpa using decided) (.inl unknown))
  · obtain rfl := left.eq (by simpa using unknown)
    by_cases unknown : r.isUnknown = true
    · by_cases decided : l.decides short = true
      · right; left
        simp [combine, decided]
      · exact .inl (combine_unknown id (by simpa using decided) (decides_of_isUnknown unknown short)
          (.inr unknown))
    · obtain rfl := right.eq (by simpa using unknown)
      exact .refl false _

theorem combine_covers (id : Int) (short : Bool) (left : Covers loose l l')
    (right : Covers loose r r') :
    Covers loose (combine id short l r) (combine id short l' r') := by
  cases loose with
  | false => exact combine_exact id short left right
  | true => exact combine_loose id short left right

theorem select_failure (id : Int) {g : Value} (failed : g.isFailure = true) (l r : Value) :
    select id g l r = g := by
  cases g <;> first | rfl | cases failed

theorem select_covers (id : Int) {g g' : Value} (guard : Covers loose g g')
    (whenTrue : Covers loose l l') (whenFalse : Covers loose r r') :
    Covers loose (select id g l r) (select id g' l' r') := by
  rcases guard with unknown | rfl | ⟨isLoose, failed⟩
  · left
    rwa [select_failure id (isFailure_of_isUnknown unknown)]
  · cases g with
    | bool b => cases b <;> assumption
    | _ => exact .refl loose _
  · refine .of_failure isLoose (failed.imp (fun failed => ?_) fun failed => ?_)
    · rwa [select_failure id failed]
    · rwa [select_failure id failed]

variable [HostObjects]

/-! ### Parts of values -/

theorem testField_covers (id : Int) (name : String) (access : Option (String × FieldAccess))
    (covers : Covers loose v w) :
    Covers loose (v.testField id name access) (w.testField id name access) := by
  refine covers.map (·.testField id name access) (fun u unknown => ?_) fun u failed => ?_
  · obtain ⟨s, rfl⟩ := exists_of_isUnknown unknown
    cases access <;> rfl
  · cases u <;> cases access <;> first | rfl | cases failed

theorem index_covers (v : Value) (covers : Covers loose l l') :
    Covers loose (v.index l) (v.index l') :=
  covers.map v.index (fun u unknown => strict_unknown ⟨u, by simp, unknown⟩ _)
    fun u failed => strict_isFailure ⟨u, by simp, failed⟩ _

theorem memberOf_covers (id : Int) (items : List Value) (keys : List Key) (function : String)
    (overloads : List Overload) (covers : Covers loose v w) :
    Covers loose (memberOf id items keys function overloads v)
      (memberOf id items keys function overloads w) := by
  have kept : ∀ u : Value, u.isFailure = true → memberOf id items keys function overloads u = u :=
    fun u failed => if_pos failed
  refine covers.map _ (fun u unknown => ?_) fun u failed => ?_
  · rwa [kept u (isFailure_of_isUnknown unknown)]
  · rwa [kept u failed]

theorem searched_covers (id : Int) (source : String) (pattern : Regex.Pattern)
    (function : String) (overloads : List Overload) (covers : Covers loose v w) :
    Covers loose (searched id source pattern function overloads v)
      (searched id source pattern function overloads w) := by
  have kept : ∀ u : Value, u.isFailure = true →
      searched id source pattern function overloads u = u := by
    intro u failed
    cases u <;> first | rfl | cases failed
  refine covers.map _ (fun u unknown => ?_) fun u failed => ?_
  · rwa [kept u (isFailure_of_isUnknown unknown)]
  · rwa [kept u failed]

end ExprEngine.Value
