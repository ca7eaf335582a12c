import ExprEngine.Proofs.Attribution.Value
import ExprEngine.Proofs.Whole.Provider

/-!
# Attributed names

A name with steps resolves to an attributed value, where everything that is bound is attributed.
What a pattern makes unknown is the name or one of its steps, each of which has the id of a node.
-/

namespace ExprEngine

namespace Interpretation

theorem id_of_mem_all {id : Int} {names : List String} {taken : Nat} {labels : List Label}
    {i : Interpretation} (member : i ∈ all id names taken labels) :
    i.id = id ∨ ∃ label ∈ labels, i.id = label.id := by
  induction labels generalizing id names taken with
  | nil =>
    obtain rfl := List.mem_singleton.mp member
    exact .inl rfl
  | cons label rest ih =>
    rw [all] at member
    split at member
    · split at member
      · obtain rfl := List.mem_singleton.mp member
        exact .inl rfl
      · rcases List.mem_append.mp member with longer | own
        · rcases ih longer with same | ⟨other, later, same⟩
          · exact .inr ⟨label, List.mem_cons_self, same⟩
          · exact .inr ⟨other, List.mem_cons_of_mem _ later, same⟩
        · obtain rfl := List.mem_singleton.mp own
          exact .inl rfl
    · obtain rfl := List.mem_singleton.mp member
      exact .inl rfl

end Interpretation

namespace PatternStep

/-- A pattern covers a path up to its start or up to one of its qualifiers. -/
theorem cover_cases {id last : Int} {ps : List PatternStep} {path : List (Int × Value)}
    (covered : cover id ps path = some last) : last = id ∨ ∃ e ∈ path, last = e.1 := by
  induction ps generalizing id path with
  | nil => exact .inl (Option.some.inj covered).symm
  | cons p ps ih =>
    cases path with
    | nil => exact .inl (Option.some.inj covered).symm
    | cons e rest =>
      rw [cover] at covered
      split at covered
      · rcases ih covered with same | ⟨other, later, same⟩
        · exact .inr ⟨e, List.mem_cons_self, same⟩
        · exact .inr ⟨other, List.mem_cons_of_mem _ later, same⟩
      · cases covered

end PatternStep

theorem Variable.mem_of_firstSome {α : Type} {v : Value} {f : α → Run (Option Value)} {as : List α}
    (found : (firstSome f as).value = some v) : ∃ a ∈ as, (f a).value = some v := by
  induction as with
  | nil => cases found
  | cons a rest ih =>
    simp only [firstSome, Run.value_bind] at found
    cases first : (f a).value with
    | some w =>
      rw [first] at found
      obtain rfl := Option.some.inj found
      exact ⟨a, List.mem_cons_self, first⟩
    | none =>
      rw [first] at found
      obtain ⟨b, member, same⟩ := ih found
      exact ⟨b, List.mem_cons_of_mem _ member, same⟩

variable [TrustedObjects]

variable {nodes : List Int}

namespace Scope

def Attributed (nodes : List Int) (s : Scope) : Prop :=
  ∀ name v, (s.resolve name).value = some v → v.Attributed nodes (s.patterns ≠ [])

theorem Attributed.frame {s : Scope} (attributed : s.Attributed nodes) (name : String) {v : Value}
    (value : v.Attributed nodes (s.patterns ≠ [])) : (frame s name v).Attributed nodes := by
  intro other w found
  simp only [resolve] at found
  split at found
  · obtain rfl := Option.some.inj found
    exact value
  · exact attributed other w found

end Scope

namespace Step

structure Attributed (nodes : List Int) (x : Step) : Prop where
  node : x.id ∈ nodes
  key : ∀ s : Scope, s.Attributed nodes → (x.key s).value.Attributed nodes (s.patterns ≠ [])
  apply : ∀ s : Scope, s.Attributed nodes → ∀ v : Value, v.isWhole = true →
    ((x.apply s v).value.withExprId x.id).Attributed nodes (s.patterns ≠ [])

variable {s : Scope} {steps : List Step}

theorem walk_attributed (scope : s.Attributed nodes)
    (attributed : ∀ x ∈ steps, x.Attributed nodes) {v : Value}
    (value : v.Attributed nodes (s.patterns ≠ [])) :
    (walk s steps v).value.Attributed nodes (s.patterns ≠ []) := by
  induction steps generalizing v with
  | nil => exact value
  | cons x rest ih =>
    rw [value_walk_cons]
    split
    · exact value
    · next regular =>
      have whole : v.isWhole = true := value.isWhole (by simpa using regular)
      have applied := (attributed x List.mem_cons_self).apply s scope v whole
      exact ih (fun y member => attributed y (List.mem_cons_of_mem _ member)) applied

end Step

namespace Variable

structure Attributed (nodes : List Int) (x : Variable) : Prop where
  node : x.id ∈ nodes
  steps : ∀ y ∈ x.steps, y.Attributed nodes

theorem noSuchAttribute_attributed {marked : Prop} {id : Int} (node : id ∈ nodes)
    (message : String) : (noSuchAttribute id message).Attributed nodes marked :=
  (Value.failure_fresh _ _).attributed node

variable {x : Variable} {s : Scope} {provider : Provider} {v : Value}

theorem unknown?_attributed (attributed : x.Attributed nodes) (scope : s.Attributed nodes)
    {name : String} (found : (x.unknown? s name).value = some v) :
    v.Attributed nodes (s.patterns ≠ []) := by
  unfold unknown? at found
  split at found
  · cases found
  · next patterns present =>
    have isMarked : s.patterns ≠ [] := by
      intro none
      rw [none] at present
      exact present rfl
    have single : ∀ id ∈ nodes,
        (Value.unknown (.singleton id)).Attributed nodes (s.patterns ≠ []) := by
      intro id node
      refine .unknown isMarked (by simp [UnknownSet.singleton]) fun other member => ?_
      obtain rfl := List.mem_singleton.mp member
      exact node
    split at found
    · obtain rfl := Option.some.inj found
      exact single x.id attributed.node
    · rw [Run.value_bind] at found
      cases keys : (Step.keys s x.steps).value with
      | error u =>
        rw [keys] at found
        obtain rfl := Option.some.inj found
        obtain ⟨y, member, rfl, -⟩ := Step.key_of_keys_error keys
        exact (attributed.steps y member).key s scope
      | ok ks =>
        rw [keys] at found
        obtain ⟨id, covered, rfl⟩ := Option.map_eq_some_iff.mp found
        obtain ⟨p, -, covered⟩ := List.exists_of_findSome?_eq_some covered
        apply single
        rcases PatternStep.cover_cases covered with rfl | ⟨e, member, rfl⟩
        · exact attributed.node
        · obtain ⟨y, listed, same⟩ := List.mem_map.mp (List.of_mem_zip member).1
          rw [← same]
          exact (attributed.steps y listed).node

theorem unbound?_attributed (attributed : x.Attributed nodes) (fresh : provider.Fresh)
    {marked : Prop} {name : String} (found : x.unbound? provider name = some v) :
    v.Attributed nodes marked := by
  obtain ⟨w, known, rfl⟩ := Option.map_eq_some_iff.mp found
  split
  · exact .whole (fresh.findIdent name w known)
  · exact noSuchAttribute_attributed attributed.node _

theorem resolveName?_attributed (attributed : x.Attributed nodes) (fresh : provider.Fresh)
    (scope : s.Attributed nodes) {name : String}
    (found : (x.resolveName? provider s name).value = some v) :
    v.Attributed nodes (s.patterns ≠ []) := by
  rw [value_resolveName?] at found
  split at found
  · next u marked =>
    obtain rfl := Option.some.inj found
    split at marked
    · cases marked
    · exact unknown?_attributed attributed scope marked
  · split at found
    · next w bound =>
      obtain rfl := Option.some.inj found
      exact Step.walk_attributed scope attributed.steps (scope name w bound)
    · exact unbound?_attributed attributed fresh found

theorem resolve?_attributed (attributed : x.Attributed nodes) (fresh : provider.Fresh)
    (scope : s.Attributed nodes) (found : (x.resolve? provider s).value = some v) :
    v.Attributed nodes (s.patterns ≠ []) := by
  obtain ⟨name, -, found⟩ := mem_of_firstSome found
  exact resolveName?_attributed attributed fresh scope found

theorem resolve_attributed (attributed : x.Attributed nodes) (fresh : provider.Fresh)
    (scope : s.Attributed nodes) :
    (x.resolve provider s).value.Attributed nodes (s.patterns ≠ []) := by
  simp only [resolve, Run.value_bind, Run.value_pure]
  cases found : (x.resolve? provider s).value with
  | some v => exact resolve?_attributed attributed fresh scope found
  | none => exact noSuchAttribute_attributed attributed.node _

theorem ofUnchecked_attributed {id : Int} (node : id ∈ nodes) (names : List String)
    {steps : List Step} (attributed : ∀ y ∈ steps, y.Attributed nodes) :
    ∀ x ∈ ofUnchecked id names steps, x.Attributed nodes := by
  intro x member
  obtain ⟨i, listed, rfl⟩ := List.mem_map.mp member
  refine ⟨?_, fun y later => attributed y (List.mem_of_mem_drop later)⟩
  rcases Interpretation.id_of_mem_all listed with same | ⟨label, labelled, same⟩
  · exact same ▸ node
  · obtain ⟨y, step, rfl⟩ := List.mem_map.mp labelled
    exact same ▸ (attributed y step).node

theorem resolveUnchecked_attributed {id : Int} (node : id ∈ nodes) (names : List String)
    {steps : List Step} (attributed : ∀ y ∈ steps, y.Attributed nodes) (fresh : provider.Fresh)
    (scope : s.Attributed nodes) :
    (resolveUnchecked id names steps provider s).value.Attributed nodes (s.patterns ≠ []) := by
  simp only [resolveUnchecked, Run.value_bind, Run.value_pure]
  cases found : (firstSome (·.resolve? provider s) (ofUnchecked id names steps)).value with
  | some v =>
    obtain ⟨x, member, found⟩ := mem_of_firstSome found
    exact resolve?_attributed (ofUnchecked_attributed node names attributed x member) fresh scope
      found
  | none => exact noSuchAttribute_attributed node _

end Variable

end ExprEngine
