import ExprEngine.Proofs.Meaning.Selection
import ExprEngine.Proofs.Whole.Provider

/-!
# Operations on alike values

Lists, maps, objects, calls and loops of alike parts are alike.
-/

namespace ExprEngine

variable [TrustedObjects]

namespace Value

/-! ### Maps and objects -/

omit [TrustedObjects] in
theorem flatMap_pair_inj {ps qs : List (Value × Value)}
    (same : (ps.flatMap fun p => [p.1, p.2]) = qs.flatMap fun q => [q.1, q.2]) : ps = qs := by
  induction ps generalizing qs with
  | nil =>
    cases qs with
    | nil => rfl
    | cons q rest => cases same
  | cons p rest ih =>
    cases qs with
    | nil => cases same
    | cons q others =>
      simp only [List.flatMap_cons, List.cons_append, List.nil_append, List.cons.injEq] at same
      obtain ⟨key, value, later⟩ := same
      rw [ih later, Prod.ext key value]

theorem mapOf_alike (id : Int) {ps qs : List (Value × Value)}
    (alike : List.Forall₂ (fun p q => p.1.Alike q.1 ∧ p.2.Alike q.2) ps qs) :
    Alike (strict (ps.flatMap fun p => [p.1, p.2]) ((mapOf ps).withExprId id))
      (strict (qs.flatMap fun q => [q.1, q.2]) ((mapOf qs).withExprId id)) := by
  have parts : List.Forall₂ Alike (ps.flatMap fun p => [p.1, p.2])
      (qs.flatMap fun q => [q.1, q.2]) := by
    induction alike with
    | nil => exact .nil
    | cons first _ ih => exact .cons first.1 (.cons first.2 ih)
  refine strict_alike parts fun same whole => ?_
  rw [← flatMap_pair_inj same]
  refine alike_withExprId (mapOf_fresh fun p member => whole p.2 ?_).settled id
  exact List.mem_flatMap.mpr ⟨p, member, List.mem_cons_of_mem _ List.mem_cons_self⟩

theorem list_alike {vs ws : List Value} (alike : List.Forall₂ Alike vs ws) :
    Alike (strict vs (list vs)) (strict ws (list ws)) :=
  strict_alike alike fun same whole => by
    rw [same]
    exact alike_of_whole (itemsWhole_iff.mpr (same ▸ whole))

theorem construct_alike {provider : Provider} (keeps : provider.KeepsWhole) (id : Int)
    (typeName : String) {vs ws : List (String × Value)}
    (alike : List.Forall₂ (fun p q => p.1 = q.1 ∧ p.2.Alike q.2) vs ws) :
    Alike (strict (vs.map Prod.snd) ((provider.construct typeName vs).withExprId id))
      (strict (ws.map Prod.snd) ((provider.construct typeName ws).withExprId id)) := by
  have names : vs.map Prod.fst = ws.map Prod.fst := by
    induction alike with
    | nil => rfl
    | cons first _ ih => rw [List.map_cons, List.map_cons, first.1, ih]
  have values : List.Forall₂ Alike (vs.map Prod.snd) (ws.map Prod.snd) := by
    rw [List.forall₂_map_left_iff, List.forall₂_map_right_iff]
    exact alike.imp fun _ _ => And.right
  refine strict_alike values fun same whole => ?_
  have fields : vs = ws := by
    rw [← List.zip_unzip vs, ← List.zip_unzip ws, List.unzip_eq_map, List.unzip_eq_map, names, same]
  rw [fields]
  refine alike_withExprId (keeps.construct typeName ws fun f member => ?_) id
  rw [← fields] at member
  exact whole f.2 (List.mem_map.mpr ⟨f, member, rfl⟩)

end Value

/-! ### Loops -/

inductive LoopAlike : Except Value Value → Except Value Value → Prop where
  | ok {v w} (alike : v.Alike w) : LoopAlike (.ok v) (.ok w)
  | error {v w} (alike : v.Alike w) : LoopAlike (.error v) (.error w)

/-- A step on alike accumulators leads to alike accumulators or ends both loops, so the loops end
alike. -/
theorem iterate_alike {condition condition' step step' : Value → Value → Run Value}
    {elements : List Value}
    (conditions : ∀ v w x, v.Alike w → x ∈ elements →
      (condition v x).value.Alike (condition' w x).value)
    (steps : ∀ v w x, v.Alike w → x ∈ elements → (step v x).value.Alike (step' w x).value)
    {accu accu' : Value} (alike : accu.Alike accu') :
    LoopAlike (iterate false condition step elements accu).value
      (iterate false condition' step' elements accu').value := by
  induction elements generalizing accu accu' with
  | nil => exact .ok alike
  | cons x rest ih =>
    have checked := conditions accu accu' x alike List.mem_cons_self
    have next := steps accu accu' x alike List.mem_cons_self
    simp only [iterate, Run.value_bind, apply_ite Run.value, Run.value_pure, ← checked.isError,
      ← checked.decides, ← next.isError]
    split
    · exact .error checked
    · split
      · exact .ok alike
      · split
        · exact .error next
        · exact ih
            (fun v w y alike member => conditions v w y alike (List.mem_cons_of_mem _ member))
            (fun v w y alike member => steps v w y alike (List.mem_cons_of_mem _ member)) next

/-! ### Steps -/

namespace Step

theorem applyAll_select {s : Scope} {steps : List Step} {fs : List (Value → Value)}
    (applied : List.Forall₂ (Mirrors s) steps fs) (id : Int) {v g : Value} (guard : v.Alike g)
    (whenTrue whenFalse : Value) :
    applyAll fs (Value.select id g whenTrue whenFalse) =
      Value.select id g (applyAll fs whenTrue) (applyAll fs whenFalse) := by
  rcases guard with ⟨rfl, whole⟩ | ⟨e, f, known, -, rfl, -, -, isSome⟩
  · cases v with
    | bool b => cases b <;> rfl
    | error e => simp [Value.isWhole] at whole
    | unknown ids => simp [Value.isWhole] at whole
    | _ => exact applyAll_error applied (by rfl)
  · exact applyAll_error applied isSome

variable [HostObjects] [TrustedObjects.Sound]

theorem mirrors_field (s : Scope) (id : Int) (name : String) :
    Mirrors s
      ⟨⟨id, some name⟩, fun _ => pure (.string name), fun _ v => pure (v.readField name none)⟩
      fun w => (w.selectField (.string name)).withExprId id where
  whole v whole := by
    have read : v.readField name none = v.selectField (.string name) := by
      cases v <;> rfl
    change Value.Alike ((v.readField name none).withExprId id) _
    rw [read]
    exact Value.selectField_alike (Value.alike_of_whole whole) _ id
  error e known isSome := Value.withExprId_of_some isSome id

theorem mirrors_index {s : Scope} {x : Step} {k k' : Value}
    (applied : ∀ v, (x.apply s v).value = v.index k) (keys : k.Alike k') :
    Mirrors s x fun w => (w.index k').withExprId x.id where
  whole v whole := by
    rw [applied]
    exact Value.index_alike (Value.alike_of_whole whole) keys x.id
  error e known isSome := by
    rw [Value.index_error e keys.other_settled, Value.withExprId_of_some isSome]

end Step

end ExprEngine
