import ExprEngine.Proofs.Evaluation.Scopes
import ExprEngine.Proofs.Renaming.Expressions

/-!
# Plans with renamed loop variables

Alike plans differ in the names of loop variables only. In scopes that bind these variables to the
same values, each under its name, they have the same runs: a variable of a loop is found in its
frame, under whichever name, and every other name is looked up past the frames.
-/

namespace ExprEngine

open Renaming

mutual

inductive Plan.Alike : Renaming → Plan → Plan → Prop where
  | const {ρ id v} : Plan.Alike ρ (.const id v) (.const id v)
  | attr {ρ id a b} (referents : Attribute.Alike ρ a b) : Plan.Alike ρ (.attr id a) (.attr id b)
  | both {ρ id l l' r r'} (lefts : Plan.Alike ρ l l') (rights : Plan.Alike ρ r r') :
      Plan.Alike ρ (.both id l r) (.both id l' r')
  | either {ρ id l l' r r'} (lefts : Plan.Alike ρ l l') (rights : Plan.Alike ρ r r') :
      Plan.Alike ρ (.either id l r) (.either id l' r')
  | conditional {ρ id g g' t t' f f'} (guards : Plan.Alike ρ g g') (whenTrue : Plan.Alike ρ t t')
      (whenFalse : Plan.Alike ρ f f') :
      Plan.Alike ρ (.conditional id g t f) (.conditional id g' t' f')
  | call {ρ id function args args' overloads} (alike : Plan.AlikeAll ρ args args') :
      Plan.Alike ρ (.call id function args overloads) (.call id function args' overloads)
  | list {ρ id elements elements'} (alike : Plan.AlikeAll ρ elements elements') :
      Plan.Alike ρ (.list id elements) (.list id elements')
  | mapping {ρ id entries entries'} (alike : Plan.AlikeKeyed ρ entries entries') :
      Plan.Alike ρ (.mapping id entries) (.mapping id entries')
  | object {ρ id typeName fields fields'} (alike : Plan.AlikeFields ρ fields fields') :
      Plan.Alike ρ (.object id typeName fields) (.object id typeName fields')
  | presence {ρ id operand operand' field access} (operands : Plan.Alike ρ operand operand') :
      Plan.Alike ρ (.presence id operand field access) (.presence id operand' field access)
  | loop {ρ id x y range range' accuVar init init' condition condition' step step' result result'}
      (undotted : x = y ∨ '.' ∉ x.toList ∧ '.' ∉ y.toList) (ranges : Plan.Alike ρ range range')
      (inits : Plan.Alike ρ init init')
      (conditions : Plan.Alike ((x, y) :: (accuVar, accuVar) :: ρ) condition condition')
      (steps : Plan.Alike ((x, y) :: (accuVar, accuVar) :: ρ) step step')
      (results : Plan.Alike ((accuVar, accuVar) :: ρ) result result') :
      Plan.Alike ρ (.loop id x range accuVar init condition step result)
        (.loop id y range' accuVar init' condition' step' result')
  | membership {ρ id element element' items keys function overloads}
      (elements : Plan.Alike ρ element element') :
      Plan.Alike ρ (.membership id element items keys function overloads)
        (.membership id element' items keys function overloads)
  | search {ρ id text text' source pattern function overloads} (texts : Plan.Alike ρ text text') :
      Plan.Alike ρ (.search id text source pattern function overloads)
        (.search id text' source pattern function overloads)
  | exhaustive {ρ p q} (inner : Plan.Alike ρ p q) : Plan.Alike ρ (.exhaustive p) (.exhaustive q)
  | observed {ρ p q} (inner : Plan.Alike ρ p q) : Plan.Alike ρ (.observed p) (.observed q)

inductive Plan.AlikeAll : Renaming → List Plan → List Plan → Prop where
  | nil {ρ} : Plan.AlikeAll ρ [] []
  | cons {ρ p q ps qs} (first : Plan.Alike ρ p q) (others : Plan.AlikeAll ρ ps qs) :
      Plan.AlikeAll ρ (p :: ps) (q :: qs)

inductive Plan.AlikeKeyed : Renaming → List (Plan × Plan) → List (Plan × Plan) → Prop where
  | nil {ρ} : Plan.AlikeKeyed ρ [] []
  | cons {ρ k k' v v' ps qs} (keys : Plan.Alike ρ k k') (values : Plan.Alike ρ v v')
      (others : Plan.AlikeKeyed ρ ps qs) : Plan.AlikeKeyed ρ ((k, v) :: ps) ((k', v') :: qs)

inductive Plan.AlikeFields : Renaming → List (String × Plan) → List (String × Plan) → Prop where
  | nil {ρ} : Plan.AlikeFields ρ [] []
  | cons {ρ name v v' ps qs} (values : Plan.Alike ρ v v') (others : Plan.AlikeFields ρ ps qs) :
      Plan.AlikeFields ρ ((name, v) :: ps) ((name, v') :: qs)

inductive Attribute.Alike : Renaming → Attribute → Attribute → Prop where
  | absolute {ρ id n m qs rs} (bound : n ∈ ρ.map Prod.fst) (related : Relates ρ n m)
      (qualifiers : Plan.AlikeQualifiers ρ qs rs) :
      Attribute.Alike ρ (.absolute id true [n] qs) (.absolute id true [m] rs)
  | ambiguous {ρ id names qs rs} (free : ∀ n ∈ names, Relates ρ n n)
      (qualifiers : Plan.AlikeQualifiers ρ qs rs) :
      Attribute.Alike ρ (.ambiguous id names qs) (.ambiguous id names rs)
  | relative {ρ id p q qs rs} (operands : Plan.Alike ρ p q)
      (qualifiers : Plan.AlikeQualifiers ρ qs rs) :
      Attribute.Alike ρ (.relative id p qs) (.relative id q rs)
  | conditional {ρ id g g' t t' f f'} (guards : Plan.Alike ρ g g')
      (whenTrue : Attribute.Alike ρ t t') (whenFalse : Attribute.Alike ρ f f') :
      Attribute.Alike ρ (.conditional id g t f) (.conditional id g' t' f')

inductive Plan.AlikeQualifiers : Renaming → List Qualifier → List Qualifier → Prop where
  | nil {ρ} : Plan.AlikeQualifiers ρ [] []
  | field {ρ id name access qs rs} (others : Plan.AlikeQualifiers ρ qs rs) :
      Plan.AlikeQualifiers ρ (.field id name access :: qs) (.field id name access :: rs)
  | constant {ρ id key qs rs} (others : Plan.AlikeQualifiers ρ qs rs) :
      Plan.AlikeQualifiers ρ (.constant id key :: qs) (.constant id key :: rs)
  | computed {ρ id p q qs rs} (keys : Plan.Alike ρ p q)
      (others : Plan.AlikeQualifiers ρ qs rs) :
      Plan.AlikeQualifiers ρ (.computed id p :: qs) (.computed id q :: rs)

end

namespace Scope

/-- The scopes bind related names to the same values, and all other names alike. -/
structure Renamed (ρ : Renaming) (s t : Scope) : Prop where
  resolve : ∀ {n m}, Relates ρ n m → s.resolve n = t.resolve m
  bound : ∀ n ∈ ρ.map Prod.fst, (s.resolve n).value.isSome = true
  /-- No variable has hidden a name with a dot. -/
  dotted : ∀ {n : String}, '.' ∈ n.toList → s.resolve n = t.resolve n
  patterns : s.patterns = t.patterns
  recording : s.isRecording = t.isRecording

theorem renamed_refl (s : Scope) : s.Renamed [] s where
  resolve related := congrArg s.resolve related
  bound _ member := nomatch member
  dotted _ := rfl
  patterns := rfl
  recording := rfl

theorem renamed_constant (ρ : Renaming) (v : Value) :
    Renamed ρ (.function fun _ => some v) (.function fun _ => some v) where
  resolve _ := rfl
  bound _ _ := rfl
  dotted _ := rfl
  patterns := rfl
  recording := rfl

variable {ρ : Renaming} {s t : Scope}

theorem Renamed.frame (renamed : s.Renamed ρ t) {x y : String}
    (undotted : x = y ∨ '.' ∉ x.toList ∧ '.' ∉ y.toList) (v : Value) :
    Renamed ((x, y) :: ρ) (.frame s x v) (.frame t y v) where
  resolve {n m} related := by
    rcases related with ⟨rfl, rfl⟩ | ⟨left, right, related⟩
    · simp [Scope.resolve]
    · simp only [Scope.resolve, left, right, ↓reduceIte, renamed.resolve related]
  bound n member := by
    by_cases here : n = x
    · simp [Scope.resolve, here]
    · have outside := (List.mem_cons.mp member).resolve_left here
      simpa only [Scope.resolve, here, ↓reduceIte] using renamed.bound n outside
  dotted {n} dotted := by
    rcases undotted with rfl | ⟨left, right⟩
    · simp only [Scope.resolve, renamed.dotted dotted]
    · have apart : n ≠ x := by
        rintro rfl
        exact left dotted
      have apart' : n ≠ y := by
        rintro rfl
        exact right dotted
      simp only [Scope.resolve, apart, apart', ↓reduceIte, renamed.dotted dotted]
  patterns := renamed.patterns
  recording := renamed.recording

theorem Renamed.inside (renamed : s.Renamed ρ t) {x y : String}
    (undotted : x = y ∨ '.' ∉ x.toList ∧ '.' ∉ y.toList) (accuVar : String) (accu v : Value) :
    Renamed ((x, y) :: (accuVar, accuVar) :: ρ) (.frame (.frame s accuVar accu) x v)
      (.frame (.frame t accuVar accu) y v) :=
  (renamed.frame (.inl rfl) accu).frame undotted v

theorem Renamed.record (renamed : s.Renamed ρ t) (id : Int) (v : Value) :
    s.record id v = t.record id v := by
  simp only [Scope.record, renamed.recording]

end Scope

namespace Step

structure Matches (s t : Scope) (x y : Step) : Prop where
  label : x.label = y.label
  key : x.key s = y.key t
  apply : ∀ v, x.apply s v = y.apply t v

variable {s t : Scope} {xs ys : List Step}

theorem walk_matches (same : List.Forall₂ (Matches s t) xs ys) (v : Value) :
    walk s xs v = walk t ys v := by
  induction same generalizing v with
  | nil => rfl
  | cons first _ ih => simp only [walk, Step.id, first.label, first.apply, ih]

theorem keys_matches (same : List.Forall₂ (Matches s t) xs ys) : keys s xs = keys t ys := by
  induction same with
  | nil => rfl
  | cons first _ ih => simp only [keys, first.key, ih]

theorem labels_matches (same : List.Forall₂ (Matches s t) xs ys) :
    xs.map label = ys.map label := by
  induction same with
  | nil => rfl
  | cons first _ ih => simp only [List.map_cons, first.label, ih]

end Step

namespace Variable

variable {ρ : Renaming} {s t : Scope} {xs ys : List Step}

theorem firstSome_eq {α β : Type} {f : α → Run (Option Value)} {g : β → Run (Option Value)}
    {as : List α} {bs : List β} (same : List.Forall₂ (fun a b => f a = g b) as bs) :
    firstSome f as = firstSome g bs := by
  induction same with
  | nil => rfl
  | cons first _ ih => simp only [firstSome, first, ih]

/-- A variable of a loop is what its frame holds, whatever it is called. -/
theorem resolve_bound (same : List.Forall₂ (Step.Matches s t) xs ys) (id : Int)
    (provider : Provider) {n m : String} (resolved : s.resolve n = t.resolve m)
    (bound : (s.resolve n).value.isSome = true) :
    (Variable.mk id true [n] xs).resolve provider s =
      (Variable.mk id true [m] ys).resolve provider t := by
  obtain ⟨v, found⟩ := Option.isSome_iff_exists.mp bound
  have found' : (t.resolve m).value = some v := resolved ▸ found
  have walked := Step.walk_matches same v
  apply Run.ext
  · simp [resolve, resolve?, firstSome, resolveName?, found, found', walked]
  · simp [resolve, resolve?, firstSome, resolveName?, found', walked, resolved]

theorem resolve?_eq (same : List.Forall₂ (Step.Matches s t) xs ys) (id : Int)
    (provider : Provider) {names : List String} (patterns : s.patterns = t.patterns)
    (resolved : ∀ n ∈ names, s.resolve n = t.resolve n) :
    (Variable.mk id false names xs).resolve? provider s =
      (Variable.mk id false names ys).resolve? provider t := by
  have isEmpty : xs.isEmpty = ys.isEmpty := by cases same <;> rfl
  have walked : ∀ v, Step.walk s xs v = Step.walk t ys v := fun v => Step.walk_matches same v
  have text : Step.text xs = Step.text ys := by
    rw [Step.text_eq, Step.text_eq, Step.labels_matches same]
  apply firstSome_eq
  rw [List.forall₂_same]
  intro n member
  simp only [resolveName?, unknown?, patterns, isEmpty, Step.keys_matches same, Step.map_id_eq,
    Step.labels_matches same, resolved n member, walked, text, written]

theorem resolveUnchecked_eq (same : List.Forall₂ (Step.Matches s t) xs ys) (id : Int)
    (provider : Provider) {names : List String} (renamed : s.Renamed ρ t)
    (free : ∀ n ∈ names, Relates ρ n n) :
    resolveUnchecked id names xs provider s = resolveUnchecked id names ys provider t := by
  have labels := Step.labels_matches same
  have text : Step.text xs = Step.text ys := by rw [Step.text_eq, Step.text_eq, labels]
  have readings : firstSome (·.resolve? provider s) (ofUnchecked id names xs) =
      firstSome (·.resolve? provider t) (ofUnchecked id names ys) := by
    apply firstSome_eq
    simp only [ofUnchecked, labels, List.forall₂_map_left_iff, List.forall₂_map_right_iff,
      List.forall₂_same]
    intro i listed
    refine resolve?_eq (List.forall₂_drop i.taken same) i.id provider renamed.patterns ?_
    have longer (name field : String) : s.resolve (name ++ "." ++ field) =
        t.resolve (name ++ "." ++ field) := renamed.dotted (by simp)
    exact Interpretation.of_mem_all (P := fun n => s.resolve n = t.resolve n) longer id
      (fun n member => renamed.resolve (free n member)) 0 _ i listed
  simp only [resolveUnchecked, text, readings]

end Variable

namespace Plan

theorem Alike.id_eq {ρ : Renaming} {p q : Plan} (alike : Alike ρ p q) : p.id = q.id := by
  match alike with
  | .exhaustive inner | .observed inner => exact inner.id_eq
  | .const | .attr _ | .both _ _ | .either _ _ | .conditional _ _ _ | .call _ | .list _ |
    .mapping _ | .object _ | .presence _ | .loop _ _ _ _ _ _ | .membership _ | .search _ => rfl

variable [HostObjects]

mutual

/-- Alike plans have the same runs in scopes that are renamed as the plans are. -/
theorem eval_alike (provider : Provider) {ρ : Renaming} {p q : Plan} (alike : Alike ρ p q)
    (everything : Bool) {s t : Scope} (renamed : s.Renamed ρ t) :
    eval provider p everything s = eval provider q everything t := by
  match alike with
  | .const => rfl
  | .attr referents => simp only [eval, resolve_alike provider referents everything renamed]
  | .both lefts rights =>
    simp only [eval, eval_alike provider lefts false renamed,
      eval_alike provider rights false renamed]
  | .either lefts rights =>
    simp only [eval, eval_alike provider lefts false renamed,
      eval_alike provider rights false renamed]
  | .conditional guards whenTrue whenFalse =>
    simp only [eval, eval_alike provider guards false renamed,
      eval_alike provider whenTrue false renamed, eval_alike provider whenFalse false renamed]
  | .call alike => simp only [eval, evalAll_alike provider alike renamed]
  | .list alike => simp only [eval, evalAll_alike provider alike renamed]
  | .mapping alike => simp only [eval, evalEntries_alike provider alike renamed]
  | .object alike => simp only [eval, evalFields_alike provider alike renamed]
  | .presence operands => simp only [eval, eval_alike provider operands false renamed]
  | @Alike.loop _ _ x y _ _ accuVar _ _ condition condition' step step' _ _ undotted ranges inits
      conditions steps results =>
    have inside (accu v : Value) := renamed.inside undotted accuVar accu v
    have condition (accu v : Value) := eval_alike provider conditions false (inside accu v)
    have step (accu v : Value) := eval_alike provider steps false (inside accu v)
    have result (accu : Value) :=
      eval_alike provider results false (renamed.frame (.inl rfl) accu)
    simp only [eval, eval_alike provider ranges false renamed, ranges.id_eq,
      eval_alike provider inits false renamed, condition, step, result]
  | .membership elements => simp only [eval, eval_alike provider elements false renamed]
  | .search texts => simp only [eval, eval_alike provider texts false renamed]
  | .exhaustive inner => exact eval_alike provider inner true renamed
  | .observed inner =>
    simp only [eval, eval_alike provider inner false renamed, inner.id_eq, renamed.record]

theorem evalAll_alike (provider : Provider) {ρ : Renaming} {ps qs : List Plan}
    (alike : AlikeAll ρ ps qs) {s t : Scope} (renamed : s.Renamed ρ t) :
    evalAll provider ps s = evalAll provider qs t := by
  match alike with
  | .nil => rfl
  | .cons first others =>
    simp only [evalAll, eval_alike provider first false renamed,
      evalAll_alike provider others renamed]

theorem evalEntries_alike (provider : Provider) {ρ : Renaming} {ps qs : List (Plan × Plan)}
    (alike : AlikeKeyed ρ ps qs) {s t : Scope} (renamed : s.Renamed ρ t) :
    evalEntries provider ps s = evalEntries provider qs t := by
  match alike with
  | .nil => rfl
  | .cons keys values others =>
    simp only [evalEntries, eval_alike provider keys false renamed,
      eval_alike provider values false renamed, evalEntries_alike provider others renamed]

theorem evalFields_alike (provider : Provider) {ρ : Renaming} {ps qs : List (String × Plan)}
    (alike : AlikeFields ρ ps qs) {s t : Scope} (renamed : s.Renamed ρ t) :
    evalFields provider ps s = evalFields provider qs t := by
  match alike with
  | .nil => rfl
  | .cons values others =>
    simp only [evalFields, eval_alike provider values false renamed,
      evalFields_alike provider others renamed]

theorem resolve_alike (provider : Provider) {ρ : Renaming} {a b : Attribute}
    (alike : Attribute.Alike ρ a b) (everything : Bool) {s t : Scope} (renamed : s.Renamed ρ t) :
    resolve provider a everything s = resolve provider b everything t := by
  match alike with
  | .absolute bound related qualifiers =>
    exact Variable.resolve_bound (steps_alike provider qualifiers renamed) _ provider
      (renamed.resolve related) (renamed.bound _ bound)
  | .ambiguous free qualifiers =>
    exact Variable.resolveUnchecked_eq (steps_alike provider qualifiers renamed) _ provider renamed
      free
  | .relative operands qualifiers =>
    have walked (v : Value) := Step.walk_matches (steps_alike provider qualifiers renamed) v
    simp only [resolve, eval_alike provider operands false renamed, walked]
  | .conditional guards whenTrue whenFalse =>
    simp only [resolve, eval_alike provider guards false renamed,
      resolve_alike provider whenTrue true renamed, resolve_alike provider whenTrue false renamed,
      resolve_alike provider whenFalse true renamed, resolve_alike provider whenFalse false renamed]

theorem steps_alike (provider : Provider) {ρ : Renaming} {qs rs : List Qualifier}
    (alike : AlikeQualifiers ρ qs rs) {s t : Scope} (renamed : s.Renamed ρ t) :
    List.Forall₂ (Step.Matches s t) (steps provider qs) (steps provider rs) := by
  match alike with
  | .nil => exact .nil
  | .field others => exact .cons ⟨rfl, rfl, fun _ => rfl⟩ (steps_alike provider others renamed)
  | .constant others => exact .cons ⟨rfl, rfl, fun _ => rfl⟩ (steps_alike provider others renamed)
  | .computed keys others =>
    have same := eval_alike provider keys false renamed
    refine .cons ⟨rfl, same, fun v => ?_⟩ (steps_alike provider others renamed)
    simp only [same]

end

end Plan

end ExprEngine
