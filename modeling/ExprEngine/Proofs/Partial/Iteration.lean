import ExprEngine.Proofs.Partial.Covers

/-!
# Iteration under unknowns

Two runs over the same elements, of which one knows more than the other. An unknown accumulator
goes on where the other run may stop, at an error or at a decision.
-/

namespace ExprEngine

theorem Value.isFailure_of_elements {v : Value} {elements : List Value}
    (iterable : v.elements? = some elements) : v.isFailure = false := by
  cases v with
  | error | unknown => cases iterable
  | _ => rfl

/-- How the two runs end. When the run that knows more stops at an error, the other one has gone
on to an end with the property. -/
inductive Ends (loose : Bool) (gone : Except Value Value → Prop) :
    Except Value Value → Except Value Value → Prop where
  | ok {v w} (covers : v.Covers loose w) : Ends loose gone (.ok v) (.ok w)
  | same {e} : Ends loose gone (.error e) (.error e)
  | stopped {x e} (isError : e.isError = true) (on : gone x) : Ends loose gone x (.error e)
  | loosely {e y} (isLoose : loose = true) (isError : e.isError = true) :
      Ends loose gone (.error e) y

variable {loose everything : Bool} {condition condition' step step' : Value → Value → Run Value}
  {gone : Except Value Value → Prop}

theorem Ends.next {v w : Value} {x y : Except Value Value} (covers : v.Covers loose w)
    (on : v.isUnknown = true ∨ loose = true → gone x)
    (rest : v.isError = false → w.isError = false → Ends loose gone x y) :
    Ends loose gone (if v.isError then .error v else x) (if w.isError then .error w else y) := by
  by_cases left : v.isError = true
  · simp only [left, ↓reduceIte]
    rcases covers with unknown | rfl | ⟨isLoose, -⟩
    · rw [Value.isError_of_isUnknown unknown] at left
      cases left
    · simp only [left, ↓reduceIte]
      exact .same
    · exact .loosely isLoose left
  · by_cases right : w.isError = true
    · simp only [left, right, Bool.false_eq_true, ↓reduceIte]
      refine .stopped right (on ?_)
      rcases covers with unknown | rfl | ⟨isLoose, -⟩
      · exact .inl unknown
      · exact absurd right left
      · exact .inr isLoose
    · simp only [left, right, Bool.false_eq_true, ↓reduceIte]
      exact rest (by simpa using left) (by simpa using right)

/-- With conditions that are the same in both runs, steps that keep covering are all it takes. -/
theorem iterate_covers
    (conditions : ∀ v w x, v.Covers loose w → (condition v x).value = (condition' w x).value)
    (steps : ∀ v w x, v.Covers loose w → (step v x).value.Covers loose (step' w x).value)
    (on : ∀ rest v, v.isUnknown = true ∨ loose = true →
      gone (iterate everything condition step rest v).value)
    (elements : List Value) {v w : Value} (covers : v.Covers loose w) :
    Ends loose gone (iterate everything condition step elements v).value
      (iterate everything condition' step' elements w).value := by
  induction elements generalizing v w with
  | nil => exact .ok covers
  | cons x rest ih =>
    rw [value_iterate_cons, value_iterate_cons, ← conditions v w x covers]
    split
    · exact .same
    · split
      · exact .ok covers
      · have next := steps v w x covers
        exact .next next (on rest _) fun _ _ => ih next

/-! ### Steps that decide -/

section Decided

variable {id : Int} {short : Bool}

/-- The loop goes on until its accumulator decides, and every step combines it with an operand. -/
structure Combines (id : Int) (short : Bool) (condition step : Value → Value → Run Value) :
    Prop where
  condition : ∀ v x, (condition v x).value = .bool (!v.decides short)
  step : ∀ v x, ∃ r, (step v x).value = Value.combine id short v r

theorem Combines.iterate_cons (combines : Combines id short condition step) (x : Value)
    (rest : List Value) (v : Value) :
    (iterate everything condition step (x :: rest) v).value =
      if !everything && v.decides short then .ok v
      else if (step v x).value.isError then .error (step v x).value
      else (iterate everything condition step rest (step v x).value).value := by
  have decides : (Value.bool (!v.decides short)).decides false = v.decides short := by
    cases v.decides short <;> rfl
  rw [value_iterate_cons, combines.condition, decides]
  rfl

theorem Combines.iterate_decided (combines : Combines id short condition step)
    (everything : Bool) (elements : List Value) :
    (iterate everything condition step elements (.bool short)).value = .ok (.bool short) := by
  induction elements with
  | nil => rfl
  | cons x rest ih =>
    have decided : (Value.bool short).decides short = true := by cases short <;> rfl
    obtain ⟨r, next⟩ := combines.step (.bool short) x
    have same : (step (.bool short) x).value = .bool short := by
      simp only [next, Value.combine, decided, ↓reduceIte]
    rw [combines.iterate_cons, same, decided]
    split
    · rfl
    · exact ih

/-- An unknown accumulator never stops at an error: it stays unknown, or an operand decides. -/
theorem Combines.iterate_unknown (combines : Combines id short condition step)
    (everything : Bool) (elements : List Value) {v : Value} (unknown : v.isUnknown = true) :
    ∃ u, (iterate everything condition step elements v).value = .ok u ∧
      (u.isUnknown = true ∨ u = .bool short) := by
  induction elements generalizing v with
  | nil => exact ⟨v, rfl, .inl unknown⟩
  | cons x rest ih =>
    have undecided := Value.decides_of_isUnknown unknown short
    obtain ⟨r, next⟩ := combines.step v x
    rw [combines.iterate_cons, undecided, Bool.and_false, next]
    simp only [Bool.false_eq_true, ↓reduceIte]
    by_cases decided : r.decides short = true
    · have same : Value.combine id short v r = .bool short := by
        simp only [Value.combine, undecided, decided, Bool.false_eq_true, ↓reduceIte]
        exact Value.eq_of_decides decided
      rw [same]
      exact ⟨.bool short, combines.iterate_decided everything rest, .inr rfl⟩
    · have still := Value.combine_unknown id undecided (by simpa using decided) (.inl unknown)
      simp only [Value.isError_of_isUnknown still, Bool.false_eq_true, ↓reduceIte]
      exact ih still

theorem Combines.covers (combines : Combines id short condition step)
    (combines' : Combines id short condition' step')
    (steps : ∀ v w x, v.Covers loose w → (step v x).value.Covers loose (step' w x).value)
    (on : ∀ rest v, v.isUnknown = true ∨ loose = true →
      gone (iterate everything condition step rest v).value)
    (elements : List Value) {v w : Value} (covers : v.Covers loose w) (left : v.isError = false)
    (right : w.isError = false) :
    Ends loose gone (iterate everything condition step elements v).value
      (iterate everything condition' step' elements w).value := by
  induction elements generalizing v w with
  | nil => exact .ok covers
  | cons x rest ih =>
    by_cases same : v.decides short = w.decides short
    · rw [combines.iterate_cons, combines'.iterate_cons, same]
      split
      · exact .ok covers
      · have next := steps v w x covers
        exact .next next (on rest _) fun left right => ih next left right
    -- One of the runs has decided, and the accumulator of the other one is unknown.
    · have unknown : v.isUnknown = true ∨ loose = true ∧ w.isUnknown = true := by
        rcases covers with unknown | rfl | ⟨isLoose, failed | failed⟩
        · exact .inl unknown
        · exact absurd rfl same
        · exact .inl (Value.isUnknown_of_isFailure failed left)
        · exact .inr ⟨isLoose, Value.isUnknown_of_isFailure failed right⟩
      rcases unknown with unknown | ⟨isLoose, unknown⟩
      · obtain ⟨u, ended, known⟩ := combines.iterate_unknown everything (x :: rest) unknown
        have decided : w.decides short = true := by
          simpa [Value.decides_of_isUnknown unknown short] using same
        rw [Value.eq_of_decides decided, combines'.iterate_decided, ended]
        exact .ok (known.imp_right .inl)
      · obtain ⟨u, ended, known⟩ := combines'.iterate_unknown everything (x :: rest) unknown
        have decided : v.decides short = true := by
          simpa [Value.decides_of_isUnknown unknown short] using same
        rw [Value.eq_of_decides decided, combines.iterate_decided, ended]
        rcases known with unknown | rfl
        · exact .ok (.of_failure isLoose (.inr (Value.isFailure_of_isUnknown unknown)))
        · exact .ok (.refl loose _)

end Decided

theorem iterate_unknown {stops : Prop}
    (conditions : ∀ v x, v.isUnknown = true → (condition v x).value = .bool true)
    (steps : ∀ v x, v.isUnknown = true →
      (step v x).value.isUnknown = true ∨ stops ∧ (step v x).value.isError = true)
    (elements : List Value) {v : Value} (unknown : v.isUnknown = true) :
    (∃ u, (iterate everything condition step elements v).value = .ok u ∧ u.isUnknown = true) ∨
      stops ∧ ∃ e, (iterate everything condition step elements v).value = .error e ∧
        e.isError = true := by
  induction elements generalizing v with
  | nil => exact .inl ⟨v, rfl, unknown⟩
  | cons x rest ih =>
    rw [value_iterate_cons, conditions v x unknown]
    have regular : (Value.bool true).isError = false := rfl
    have undecided : (!everything && (Value.bool true).decides false) = false := by
      cases everything <;> rfl
    simp only [regular, undecided, Bool.false_eq_true, ↓reduceIte]
    rcases steps v x unknown with next | ⟨stops, next⟩
    · simp only [Value.isError_of_isUnknown next, Bool.false_eq_true, ↓reduceIte]
      exact ih next
    · simp only [next, ↓reduceIte]
      exact .inr ⟨stops, _, rfl, next⟩

end ExprEngine
