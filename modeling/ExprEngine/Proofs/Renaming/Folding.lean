import ExprEngine.Proofs.Planning.Folding
import ExprEngine.Proofs.Renaming.Plans

/-!
# Finishing plans with renamed loop variables

Folding, preparing, wrapping and selecting look at constants and at the form of a plan, never at the
names of variables, so that they keep plans alike.
-/

namespace ExprEngine

namespace Plan

open Renaming

variable {ρ : Renaming} {p q : Plan}

theorem Alike.asConst?_eq {p q : Plan} (alike : Alike ρ p q) : p.asConst? = q.asConst? := by
  match p with
  | .observed inner =>
    cases alike with
    | observed inner =>
      simp only [asConst?]
      exact inner.asConst?_eq
  | .const .. | .attr .. | .both .. | .either .. | .conditional .. | .call .. | .list .. |
    .mapping .. | .object .. | .presence .. | .loop .. | .membership .. | .search .. |
    .exhaustive _ =>
    cases alike
    rfl

theorem Alike.isConst_eq (alike : Alike ρ p q) : p.isConst = q.isConst :=
  congrArg Option.isSome alike.asConst?_eq

theorem Alike.mayStopEarly_eq (alike : Alike ρ p q) : p.mayStopEarly = q.mayStopEarly := by
  cases alike with
  | attr referents => cases referents <;> rfl
  | _ => rfl

theorem Alike.isObserved_eq (alike : Alike ρ p q) : p.isObserved = q.isObserved := by
  cases alike <;> rfl

theorem AlikeAll.length_eq {ps qs : List Plan} (alike : AlikeAll ρ ps qs) :
    ps.length = qs.length := by
  induction ps generalizing qs with
  | nil =>
    cases alike
    rfl
  | cons p rest ih =>
    cases alike with
    | cons _ others => rw [List.length_cons, List.length_cons, ih others]

theorem AlikeAll.isConst_eq {ps qs : List Plan} (alike : AlikeAll ρ ps qs) :
    ps.all isConst = qs.all isConst := by
  induction ps generalizing qs with
  | nil =>
    cases alike
    rfl
  | cons p rest ih =>
    cases alike with
    | cons first others => rw [List.all_cons, List.all_cons, first.isConst_eq, ih others]

theorem AlikeKeyed.isConst_eq {ps qs : List (Plan × Plan)} (alike : AlikeKeyed ρ ps qs) :
    (ps.all fun (k, v) => k.isConst && v.isConst) =
      qs.all fun (k, v) => k.isConst && v.isConst := by
  induction ps generalizing qs with
  | nil =>
    cases alike
    rfl
  | cons p rest ih =>
    cases alike with
    | cons keys values others =>
      simp only [List.all_cons, keys.isConst_eq, values.isConst_eq, ih others]

theorem Alike.isFoldable_eq (alike : Alike ρ p q) : p.isFoldable = q.isFoldable := by
  cases alike with
  | both lefts rights | either lefts rights =>
    simp only [isFoldable, lefts.isConst_eq, rights.isConst_eq]
  | call alike | list alike => exact alike.isConst_eq
  | mapping alike => exact alike.isConst_eq
  | _ => rfl

theorem Alike.knownBranch? (alike : Alike ρ p q) :
    (p.knownBranch? = none ∧ q.knownBranch? = none) ∨
      ∃ b b', p.knownBranch? = some b ∧ q.knownBranch? = some b' ∧ Alike ρ b b' := by
  cases alike with
  | @conditional _ _ _ g' _ _ _ _ guards whenTrue whenFalse =>
    simp only [Plan.knownBranch?, guards.asConst?_eq]
    rcases g'.asConst?.bind Value.asBool? with _ | _ | _
    · exact .inl ⟨rfl, rfl⟩
    · exact .inr ⟨_, _, rfl, rfl, whenFalse⟩
    · exact .inr ⟨_, _, rfl, rfl, whenTrue⟩
  | _ => exact .inl ⟨rfl, rfl⟩

theorem Alike.prepareCall (id : Int) (function : String) (overloads : List Overload)
    {args args' : List Plan} (alike : AlikeAll ρ args args') :
    Alike ρ (Plan.prepareCall id function args overloads)
      (Plan.prepareCall id function args' overloads) := by
  have plain : Alike ρ (.call id function args overloads) (.call id function args' overloads) :=
    .call alike
  unfold Plan.prepareCall
  split
  · exact plain
  · obtain _ | ⟨operand, _ | ⟨constant, _ | _⟩⟩ := alike
    · exact plain
    · exact plain
    · simp only [constant.asConst?_eq]
      split
      · split
        · split
          · exact .membership operand
          · exact plain
        · exact plain
      · split
        · split
          · exact .search operand
          · exact plain
        · exact plain
      · exact plain
    · exact plain

theorem Alike.prepare (alike : Alike ρ p q) : Alike ρ p.prepare q.prepare := by
  have kept := alike
  cases alike with
  | call args => exact Alike.prepareCall _ _ _ args
  | _ => exact kept

section

variable [HostObjects]

/-- What is folded has one value in every scope, so in one where names do not matter. -/
theorem Alike.value_eq_of_isFoldable (alike : Alike ρ p q) (foldable : p.isFoldable = true)
    (provider : Provider) :
    (eval provider p false .empty).value = (eval provider q false .empty).value := by
  have foldable' : q.isFoldable = true := alike.isFoldable_eq ▸ foldable
  let constant : Scope := .function fun _ => some .null
  calc (eval provider p false .empty).value
      = (eval provider p false constant).value := value_of_isFoldable foldable ..
    _ = (eval provider q false constant).value :=
        congrArg Run.value (eval_alike provider alike false (Scope.renamed_constant ρ .null))
    _ = (eval provider q false .empty).value := value_of_isFoldable foldable' ..

theorem Alike.fold (alike : Alike ρ p q) (provider : Provider) :
    Alike ρ (p.fold provider).value (q.fold provider).value := by
  unfold Plan.fold
  rcases alike.knownBranch? with ⟨none, none'⟩ | ⟨b, b', some, some', branches⟩
  · rw [none, none', ← alike.isFoldable_eq]
    by_cases foldable : p.isFoldable = true
    · simp only [foldable, ↓reduceIte, Run.value_bind, Run.value_pure,
        alike.value_eq_of_isFoldable foldable provider, alike.id_eq]
      split
      · exact alike
      · exact .const
    · simp only [foldable]
      exact alike.prepare
  · rw [some, some']
    exact branches

end

theorem Alike.observe (alike : Alike ρ p q) (observes : Bool) :
    Alike ρ (if observes && !p.isObserved then .observed p else p)
      (if observes && !q.isObserved then .observed q else q) := by
  rw [← alike.isObserved_eq]
  split
  · exact .observed alike
  · exact alike

theorem Alike.decorate (alike : Alike ρ p q) (options : PlanOptions) :
    Alike ρ (p.decorate options) (q.decorate options) := by
  have wrapped : Alike ρ (if options.exhaustive && p.mayStopEarly then .exhaustive p else p)
      (if options.exhaustive && q.mayStopEarly then .exhaustive q else q) := by
    rw [← alike.mayStopEarly_eq]
    split
    · exact .exhaustive alike
    · exact alike
  exact wrapped.observe options.observes

theorem Alike.toAttribute {ρ : Renaming} {p q : Plan} (alike : Alike ρ p q) :
    Attribute.Alike ρ p.toAttribute q.toAttribute := by
  match alike with
  | .observed inner | .exhaustive inner => exact inner.toAttribute
  | .attr referents => exact referents
  | .conditional guards whenTrue whenFalse =>
    exact .conditional guards whenTrue.toAttribute whenFalse.toAttribute
  | .const => exact .relative .const .nil
  | .both lefts rights => exact .relative (.both lefts rights) .nil
  | .either lefts rights => exact .relative (.either lefts rights) .nil
  | .call alike => exact .relative (.call alike) .nil
  | .list alike => exact .relative (.list alike) .nil
  | .mapping alike => exact .relative (.mapping alike) .nil
  | .object alike => exact .relative (.object alike) .nil
  | .presence operands => exact .relative (.presence operands) .nil
  | .loop undotted ranges inits conditions steps results =>
    exact .relative (.loop undotted ranges inits conditions steps results) .nil
  | .membership elements => exact .relative (.membership elements) .nil
  | .search texts => exact .relative (.search texts) .nil

theorem AlikeQualifiers.append {qs rs more more' : List Qualifier} (alike : AlikeQualifiers ρ qs rs)
    (others : AlikeQualifiers ρ more more') : AlikeQualifiers ρ (qs ++ more) (rs ++ more') := by
  induction qs generalizing rs with
  | nil =>
    cases alike
    exact others
  | cons q rest ih =>
    cases alike with
    | field alike => exact .field (ih alike)
    | constant alike => exact .constant (ih alike)
    | computed keys alike => exact .computed keys (ih alike)

end Plan

theorem Attribute.Alike.qualify {ρ : Renaming} {a b : Attribute} (alike : Attribute.Alike ρ a b)
    {q r : Qualifier} (step : Plan.AlikeQualifiers ρ [q] [r]) :
    Attribute.Alike ρ (a.qualify q) (b.qualify r) := by
  match a with
  | .absolute .. =>
    cases alike with
    | absolute bound related qualifiers => exact .absolute bound related (qualifiers.append step)
  | .ambiguous .. =>
    cases alike with
    | ambiguous free qualifiers => exact .ambiguous free (qualifiers.append step)
  | .relative .. =>
    cases alike with
    | relative operands qualifiers => exact .relative operands (qualifiers.append step)
  | .conditional _ _ t f =>
    cases alike with
    | conditional guards whenTrue whenFalse =>
      exact .conditional guards (whenTrue.qualify step) (whenFalse.qualify step)

namespace Plan

open Renaming

variable {ρ : Renaming} {p q : Plan}

theorem Alike.selected (alike : Alike ρ p q) (id : Int) (field : String)
    (access : Option (String × FieldAccess)) :
    Alike ρ (p.qualify id (.field id field access)) (q.qualify id (.field id field access)) :=
  .attr (alike.toAttribute.qualify (.field .nil))

theorem Alike.indexed (alike : Alike ρ p q) (id : Int) {key key' : Plan}
    (keys : Alike ρ key key') : Alike ρ (p.indexed id key) (q.indexed id key') := by
  unfold Plan.indexed
  rw [← keys.asConst?_eq]
  split
  · exact .attr (alike.toAttribute.qualify (.constant .nil))
  · exact .attr (alike.toAttribute.qualify (.computed keys .nil))

end Plan

end ExprEngine
