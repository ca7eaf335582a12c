import ExprEngine.Proofs.Evaluation.Scopes
import ExprEngine.Proofs.Scope.Readings

/-!
# The order of patterns

The first pattern of a variable that covers a path decides how deep the unknown is. So the order of
patterns shows where two patterns cover one path and end at different qualifiers. `Level` lists of
patterns are those without such a pair.
-/

namespace ExprEngine

theorem findSome?_eq_of_perm {α β : Type} {f : α → Option β} {as bs : List α} (perm : as.Perm bs)
    (same : ∀ a ∈ as, ∀ b ∈ as, ∀ x y, f a = some x → f b = some y → x = y) :
    as.findSome? f = bs.findSome? f := by
  cases first : as.findSome? f with
  | none =>
    rw [List.findSome?_eq_none_iff] at first
    exact (List.findSome?_eq_none_iff.mpr fun b member => first b (perm.mem_iff.mpr member)).symm
  | some x =>
    obtain ⟨a, member, found⟩ := List.exists_of_findSome?_eq_some first
    have isSome : (bs.findSome? f).isSome = true :=
      List.findSome?_isSome_iff.mpr ⟨a, perm.mem_iff.mp member, by rw [found]; rfl⟩
    obtain ⟨y, other⟩ := Option.isSome_iff_exists.mp isSome
    obtain ⟨b, listed, result⟩ := List.exists_of_findSome?_eq_some other
    rw [other, same a member b (perm.mem_iff.mpr listed) x y found result]

namespace PatternStep

def meets : PatternStep → PatternStep → Bool
  | anything, _ | _, anything => true
  | key k, key l => k == l

def sample : PatternStep → PatternStep → Value
  | key k, _ | anything, key k => k.toValue
  | anything, anything => .null

theorem meets_of_covers {a b : PatternStep} {v : Value} (left : a.covers v = true)
    (right : b.covers v = true) : a.meets b = true := by
  cases a with
  | anything => rfl
  | key k =>
    cases b with
    | anything => rfl
    | key l =>
      have first : Key.ofValue? v = some k := by simpa [covers] using left
      have second : Key.ofValue? v = some l := by simpa [covers] using right
      obtain rfl := Option.some.inj (first.symm.trans second)
      simp [meets]

theorem covers_sample {a b : PatternStep} (meets : a.meets b = true) :
    a.covers (a.sample b) = true ∧ b.covers (a.sample b) = true := by
  cases a with
  | anything => cases b <;> simp [sample, covers, Key.ofValue?_toValue]
  | key k =>
    cases b with
    | anything => simp [sample, covers, Key.ofValue?_toValue]
    | key l =>
      obtain rfl : k = l := by simpa [PatternStep.meets] using meets
      simp [sample, covers, Key.ofValue?_toValue]

/-- The steps meet as far as both lists go. -/
def meetAlong : List PatternStep → List PatternStep → Bool
  | p :: ps, q :: qs => p.meets q && meetAlong ps qs
  | _, _ => true

theorem meetAlong_of_agree {ps qs : List PatternStep} {keys : List Value}
    (left : agree ps keys = true) (right : agree qs keys = true)
    (reached : ps.length ≤ keys.length ∨ qs.length ≤ keys.length) : meetAlong ps qs = true := by
  induction ps generalizing qs keys with
  | nil => rfl
  | cons p ps ih =>
    cases qs with
    | nil => rfl
    | cons q qs =>
      cases keys with
      | nil => simp at reached
      | cons v keys =>
        rw [agree_cons] at left right
        obtain ⟨first, left⟩ := Bool.and_eq_true_iff.mp left
        obtain ⟨second, right⟩ := Bool.and_eq_true_iff.mp right
        rw [meetAlong, meets_of_covers first second, ih left right (by simpa using reached)]
        rfl

def samples : List PatternStep → List PatternStep → List Value
  | [], [] => []
  | p :: ps, [] => p.sample anything :: samples ps []
  | [], q :: qs => q.sample anything :: samples [] qs
  | p :: ps, q :: qs => p.sample q :: samples ps qs

theorem length_samples (ps qs : List PatternStep) :
    (samples ps qs).length = max ps.length qs.length := by
  fun_induction samples ps qs with
  | case1 => rfl
  | case2 p ps ih => simp_all
  | case3 q qs ih => simp_all
  | case4 p ps q qs ih => rw [List.length_cons, ih, List.length_cons, List.length_cons]; omega

theorem isUnknown_samples (ps qs : List PatternStep) :
    ∀ v ∈ samples ps qs, v.isUnknown = false := by
  have known : ∀ p q : PatternStep, (p.sample q).isUnknown = false := by
    intro p q
    rcases p with _ | k
    · rcases q with _ | k
      · rfl
      · cases k <;> rfl
    · cases k <;> rfl
  fun_induction samples ps qs with
  | case1 => exact fun v member => absurd member List.not_mem_nil
  | case2 _ _ ih | case3 _ _ ih | case4 _ _ _ _ ih => exact List.forall_mem_cons.mpr ⟨known _ _, ih⟩

theorem agree_samples {ps qs : List PatternStep} (meet : meetAlong ps qs = true) :
    agree ps (samples ps qs) = true ∧ agree qs (samples ps qs) = true := by
  have alone : ∀ p : PatternStep, p.covers (p.sample anything) = true := fun p =>
    (covers_sample (by cases p <;> rfl)).1
  fun_induction samples ps qs with
  | case1 => exact ⟨rfl, rfl⟩
  | case2 p ps ih =>
    rw [agree_cons, alone, (ih (by cases ps <;> rfl)).1]
    exact ⟨rfl, rfl⟩
  | case3 q qs ih =>
    rw [agree_cons, alone, (ih rfl).2]
    exact ⟨rfl, rfl⟩
  | case4 p ps q qs ih =>
    obtain ⟨first, others⟩ := Bool.and_eq_true_iff.mp meet
    obtain ⟨left, right⟩ := covers_sample first
    rw [agree_cons, agree_cons, left, right, (ih others).1, (ih others).2]
    exact ⟨rfl, rfl⟩

end PatternStep

namespace UnknownPattern

/-- The patterns are of one variable, and some path below it is covered by both. -/
def meets (p q : UnknownPattern) : Bool :=
  p.name == q.name && PatternStep.meetAlong p.steps q.steps

/-- Patterns that meet are equally deep. -/
def Level (ps : List UnknownPattern) : Prop :=
  ∀ p ∈ ps, ∀ q ∈ ps, p.meets q = true → p.steps.length = q.steps.length

variable {ps qs : List UnknownPattern}

theorem Level.perm (level : Level ps) (perm : qs.Perm ps) : Level qs := fun p member q listed =>
  level p (perm.mem_iff.mp member) q (perm.mem_iff.mp listed)

/-- Patterns of a level list that cover one path are equally deep, or go beyond it. -/
theorem Level.length_cases (level : Level ps) {p q : UnknownPattern} (left : p ∈ ps)
    (right : q ∈ ps) (named : p.name = q.name) {keys : List Value}
    (agrees : PatternStep.agree p.steps keys = true)
    (alike : PatternStep.agree q.steps keys = true) :
    p.steps.length = q.steps.length ∨
      keys.length ≤ p.steps.length ∧ keys.length ≤ q.steps.length := by
  by_cases reached : p.steps.length ≤ keys.length ∨ q.steps.length ≤ keys.length
  · refine .inl (level p left q right ?_)
    rw [meets, named, beq_self_eq_true, PatternStep.meetAlong_of_agree agrees alike reached]
    rfl
  · exact .inr (by omega)

theorem Level.cover_eq (level : Level ps) {p q : UnknownPattern} (left : p ∈ ps) (right : q ∈ ps)
    (named : p.name = q.name) {id : Int} {path : List (Int × Value)} {x y : Int}
    (first : PatternStep.cover id p.steps path = some x)
    (second : PatternStep.cover id q.steps path = some y) : x = y := by
  rw [PatternStep.cover_eq] at first second
  obtain ⟨agrees, first⟩ := Option.ite_none_right_eq_some.mp first
  obtain ⟨alike, second⟩ := Option.ite_none_right_eq_some.mp second
  rw [← Option.some.inj first, ← Option.some.inj second]
  rcases level.length_cases left right named agrees alike with same | ⟨beyond, past⟩
  · rw [same]
  · rw [List.length_map] at beyond past
    rw [List.take_of_length_le beyond, List.take_of_length_le past]

theorem Level.deepest_eq (level : Level ps) {p q : UnknownPattern} (left : p ∈ ps) (right : q ∈ ps)
    {r : Reading} {name : String} {keys : List Value} (length : keys.length = r.qualifiers.length)
    (first : p.covers name keys = true) (second : q.covers name keys = true) :
    r.deepest p = r.deepest q := by
  obtain ⟨named, agrees⟩ := Bool.and_eq_true_iff.mp first
  obtain ⟨called, alike⟩ := Bool.and_eq_true_iff.mp second
  have same := (beq_iff_eq.mp named).trans (beq_iff_eq.mp called).symm
  rw [Reading.deepest, Reading.deepest]
  rcases level.length_cases left right same agrees alike with same | ⟨beyond, past⟩
  · rw [same]
  · rw [length] at beyond past
    rw [List.take_of_length_le beyond, List.take_of_length_le past]

end UnknownPattern

namespace Scope

open UnknownPattern

/-- Scopes that resolve alike, and whose patterns differ in their order, which does not matter. -/
structure Permuted (s t : Scope) : Prop where
  resolve : ∀ name, (s.resolve name).value = (t.resolve name).value
  patterns : s.patterns.Perm t.patterns
  level : Level s.patterns

end Scope

namespace Variable

variable {x : Variable} {s t : Scope}

theorem unknown?_permuted (permuted : s.Permuted t) (steps : ∀ y ∈ x.steps, y.Agrees s t)
    (name : String) : (x.unknown? s name).value = (x.unknown? t name).value := by
  have filtered := permuted.patterns.filter (·.name == name)
  have covered : ∀ path : List (Int × Value),
      (s.patterns.filter (·.name == name)).findSome?
          (fun p => PatternStep.cover x.id p.steps path) =
        (t.patterns.filter (·.name == name)).findSome? fun p =>
          PatternStep.cover x.id p.steps path := by
    refine fun path => findSome?_eq_of_perm filtered fun p member q listed d e first second => ?_
    obtain ⟨left, isName⟩ := List.mem_filter.mp member
    obtain ⟨right, named⟩ := List.mem_filter.mp listed
    have same : p.name = q.name := (beq_iff_eq.mp isName).trans (beq_iff_eq.mp named).symm
    exact permuted.level.cover_eq left right same first second
  simp only [unknown?]
  cases left : s.patterns.filter (·.name == name) with
  | nil =>
    rw [left] at filtered
    rw [List.nil_perm.mp filtered]
  | cons p ps =>
    cases right : t.patterns.filter (·.name == name) with
    | nil =>
      rw [left, right] at filtered
      cases List.perm_nil.mp filtered
    | cons q qs =>
      rw [left, right] at covered
      simp only [apply_ite Run.value, Run.value_bind, Step.keys_agree steps, covered]

end Variable

section

variable [HostObjects]

namespace Plan

open UnknownPattern

/-- Plans cannot tell scopes apart by the order of their patterns. -/
theorem permuted_congruence (k : Demand) (provider : Provider) :
    Congruence k provider fun _ => Scope.Permuted where
  frame permuted name v := by
    refine ⟨fun other => ?_, permuted.patterns, permuted.level⟩
    simp only [Scope.resolve, apply_ite Run.value, permuted.resolve]
  absolute {_ _ _ id isLocal names qs} permuted _ agreeing :=
    Variable.resolve_of_names (x := ⟨id, isLocal, names, steps provider qs⟩) fun name _ =>
      Variable.resolveName?_agree agreeing (Variable.unknown?_permuted permuted agreeing name)
        (permuted.resolve name) provider
  ambiguous permuted _ agreeing := by
    refine Variable.resolveUnchecked_of_names fun x member name _ => ?_
    have kept : ∀ y ∈ x.steps, y.Agrees _ _ := fun y taken =>
      agreeing y ((Variable.of_mem_ofUnchecked member).2 y taken)
    exact Variable.resolveName?_agree kept (Variable.unknown?_permuted permuted kept name)
      (permuted.resolve name) provider

end Plan

namespace Reading

def along (name : String) (keys : List Value) : Reading :=
  ⟨0, [name], keys.zipIdx.map fun (v, i) => .constant (i + 1) v⟩

theorem map_key_along (name : String) (keys : List Value) (provider : Provider) (scope : Scope) :
    (along name keys).qualifiers.map (Qualifier.key provider scope) = keys := by
  rw [along, List.map_map]
  exact List.zipIdx_map_fst 0 keys

omit [HostObjects] in
theorem deepest_along (name : String) {keys : List Value} {p : UnknownPattern}
    (reached : p.steps.length ≤ keys.length) : (along name keys).deepest p = p.steps.length := by
  rw [deepest, along, List.getLast?_take]
  split
  · next whole => simp [whole]
  · next some =>
    have last : p.steps.length - 1 < keys.length := by omega
    simp only [List.getElem?_map, List.getElem?_zipIdx, List.getElem?_eq_getElem last,
      Option.map_some, Option.some_or, Option.getD_some, Qualifier.label]
    omega

theorem value_resolve_along {p : UnknownPattern} {keys : List Value}
    (agrees : PatternStep.agree p.steps keys = true) (known : ∀ v ∈ keys, v.isUnknown = false)
    (reached : p.steps.length ≤ keys.length) (rest : List UnknownPattern) (provider : Provider)
    (inner : Scope) :
    (Plan.resolve provider (.absolute 0 false [p.name] (along p.name keys).qualifiers) false
      (.marked inner (p :: rest))).value = .unknown (.singleton p.steps.length) := by
  have path := map_key_along p.name keys provider (.marked inner (p :: rest))
  have readable : ∀ q ∈ (along p.name keys).qualifiers,
      (q.key provider (.marked inner (p :: rest))).isUnknown = false := by
    intro q member
    refine known _ ?_
    rw [← path]
    exact List.mem_map_of_mem member
  have found := value_resolveName? (r := along p.name keys) provider readable p.name
  have covers : p.covers p.name keys = true := by simp [UnknownPattern.covers, agrees]
  simp only [outcome?, path, Scope.patterns, List.find?_cons, covers,
    deepest_along p.name reached] at found
  have single : ((variableOf provider (along p.name keys)).resolve? provider
      (.marked inner (p :: rest))).value = some (.unknown (.singleton p.steps.length)) := by
    rw [Variable.resolve?, Variable.value_firstSome]
    exact (List.findSome?_cons_of_isSome (by rw [found]; rfl)).trans found
  change ((variableOf provider (along p.name keys)).resolve? provider
    (.marked inner (p :: rest))).value.getD _ = _
  rw [single]
  rfl

end Reading

end

namespace Plan

open UnknownPattern

section

variable [HostObjects]

/-- The order of a list of patterns does not matter if and only if patterns of it that cover one
path are equally deep. Where they do not matter, an unknown has the id of the deepest qualifier that
any pattern covers. -/
theorem resolve_perm_iff (ps : List UnknownPattern) :
    ((∀ qs : List UnknownPattern, qs.Perm ps → ∀ provider a everything inner,
        (resolve provider a everything (.marked inner qs)).value =
          (resolve provider a everything (.marked inner ps)).value) ↔ Level ps) ∧
      (Level ps → ∀ (r : Reading) provider inner name,
        (∀ q ∈ r.qualifiers, (q.key provider (.marked inner ps)).isUnknown = false) →
        ∀ p ∈ ps, p.covers name (r.qualifiers.map (Qualifier.key provider (.marked inner ps))) →
          ((r.variableOf provider).resolveName? provider (.marked inner ps) name).value =
            some (.unknown (.singleton (r.deepest p)))) := by
  refine ⟨⟨fun ordered p member q listed meets => ?_,
    fun level qs perm provider a everything inner => ?_⟩,
    fun level r provider inner name known p member covers => ?_⟩
  · obtain ⟨named, meets⟩ := Bool.and_eq_true_iff.mp meets
    obtain ⟨left, right⟩ := PatternStep.agree_samples meets
    have known := PatternStep.isUnknown_samples p.steps q.steps
    have length := PatternStep.length_samples p.steps q.steps
    have first := Reading.value_resolve_along left known (by omega) (ps.erase p)
      TypeTable.empty.provider .empty
    have second := Reading.value_resolve_along right known (by omega) (ps.erase q)
      TypeTable.empty.provider .empty
    rw [ordered _ (List.perm_cons_erase member).symm, beq_iff_eq.mp named] at first
    rw [ordered _ (List.perm_cons_erase listed).symm, first] at second
    have depth : (p.steps.length : Int) = q.steps.length := by
      simpa [UnknownSet.singleton] using second
    omega
  · have permuted : (Scope.marked inner qs).Permuted (.marked inner ps) :=
      ⟨fun _ => rfl, perm, level.perm perm⟩
    exact resolve_congruent (permuted_congruence _ provider)
      (madeAttribute_of_always reading_always a []) everything permuted
  · rw [Reading.value_resolveName? provider known, Reading.outcome?]
    generalize keyed : r.qualifiers.map (Qualifier.key provider (.marked inner ps)) = keys
      at covers ⊢
    have length : keys.length = r.qualifiers.length := by rw [← keyed, List.length_map]
    cases found : (Scope.marked inner ps).patterns.find? (·.covers name keys) with
    | none => exact absurd covers (List.find?_eq_none.mp found p member)
    | some q =>
      have listed : q ∈ ps := List.mem_of_find?_eq_some found
      have covering : q.covers name keys = true := by simpa using List.find?_some found
      exact congrArg (fun id => some (Value.unknown (.singleton id)))
        (level.deepest_eq listed member length covering covers)

end

attribute [local instance] HostObjects.silent

/-- Elements of `x.a`, and all fields of `x.b` -/
def elementAndFields : List UnknownPattern :=
  [⟨"x", [.key (.string "a"), .key (.int 0)]⟩, ⟨"x", [.key (.string "b"), .anything]⟩]

def fieldOfFirst : Reading :=
  ⟨1, ["x"], [.field 2 "a" none, .constant 3 (.int 0), .field 4 "f" none]⟩

theorem resolve_perm_elementAndFields :
    Level elementAndFields ∧
      (resolve TypeTable.empty.provider (.absolute 1 false ["x"] fieldOfFirst.qualifiers) false
        (.marked .empty elementAndFields.reverse)).value = .unknown (.singleton 3) ∧
      ((fieldOfFirst.variableOf TypeTable.empty.provider).resolveName? TypeTable.empty.provider
        (.marked .empty elementAndFields) "x").value = some (.unknown (.singleton 3)) := by
  have level : Level elementAndFields := by
    unfold Level
    decide
  have known : ∀ q ∈ fieldOfFirst.qualifiers, (q.key TypeTable.empty.provider
      (.marked .empty elementAndFields)).isUnknown = false := by
    simp [fieldOfFirst, Qualifier.key, Value.isUnknown]
  obtain ⟨ordered, deepest⟩ := resolve_perm_iff elementAndFields
  refine ⟨level, ?_, ?_⟩
  · rw [ordered.mpr level _ (List.reverse_perm _)]
    rfl
  · exact deepest level fieldOfFirst TypeTable.empty.provider .empty "x" known
      ⟨"x", [.key (.string "a"), .key (.int 0)]⟩ (by decide) (by decide)

/-- Where a variable and a field of it are marked, the first pattern decides, also if it is not the
one that reaches deeper. -/
theorem first_pattern_decides :
    [(⟨"x", []⟩ : UnknownPattern), ⟨"x", [.key (.string "a")]⟩].Perm
        [⟨"x", [.key (.string "a")]⟩, ⟨"x", []⟩] ∧
      (resolve TypeTable.empty.provider (.absolute 1 false ["x"] [.field 2 "a" none]) false
        (.marked .empty [⟨"x", []⟩, ⟨"x", [.key (.string "a")]⟩])).value =
          .unknown (.singleton 1) ∧
      (resolve TypeTable.empty.provider (.absolute 1 false ["x"] [.field 2 "a" none]) false
        (.marked .empty [⟨"x", [.key (.string "a")]⟩, ⟨"x", []⟩])).value =
          .unknown (.singleton 2) :=
  ⟨.swap .., rfl, rfl⟩

end Plan

end ExprEngine
