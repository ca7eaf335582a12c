import ExprEngine.Proofs.Evaluation.Scopes
import ExprEngine.Proofs.Planning.Made

/-!
# Names that are not mentioned

An expression that mentions a name only inside loops of its own that bind it is planned alike
whether or not a loop around it binds the name, and has the same value whatever the name is bound to
there.
-/

namespace ExprEngine

namespace Planner

open Planning

open Plan hiding id

/-- The names that an identifier may stand for inside loops that bind `locals`, its own among them
unless the checker resolved it. -/
def mentions (c : Planner) (locals : List String) (id : Int) (name : String) : List String :=
  match c.checked.reference? id with
  | some { value := some _, .. } => []
  | some { name := some full, .. } => [full]
  | _ => if name ∈ locals then [name] else name :: c.candidates name

/-- Inside loops that bind `bound`, and others around them that bind `outer`, the identifier stands
for the hidden name only if one of the former binds it. -/
def Misses (c : Planner) (hidden : String) (outer bound : List String) (id : Int)
    (name : String) : Prop :=
  ∀ n ∈ c.mentions (bound ++ outer) id name, n ∈ bound ∨ n ≠ hidden

/-- An identifier, or what the checker resolved as one, misses the hidden name. -/
def Overlooks (c : Planner) (hidden : String) (outer : List String) : Expr → List String → Prop
  | .ident id name, bound => c.Misses hidden outer bound id name
  | .select id _ field, bound => c.isResolved id = true → c.Misses hidden outer bound id field
  | _, _ => True

variable {c : Planner} {hidden : String} {outer outer' bound : List String}

/-- What the checker resolved an identifier to is the same everywhere; otherwise the loops around it
decide. -/
theorem identPlan_cases (c : Planner) (id : Int) (name : String) :
    (∃ v, ∀ locals, c.identPlan locals id name = .const id v) ∨
      (∃ full, ∀ locals, c.identPlan locals id name = .attr id (.absolute id false [full] []) ∧
        c.mentions locals id name = [full]) ∨
      ∀ locals, c.identPlan locals id name = (if name ∈ locals then
            .attr id (.absolute id true [name] [])
          else .attr id (.ambiguous id (c.candidates name) [])) ∧
        c.mentions locals id name =
          if name ∈ locals then [name] else name :: c.candidates name := by
  cases known : c.checked.reference? id with
  | none =>
    refine .inr (.inr fun locals => ⟨?_, ?_⟩)
    · rw [identPlan, known]
    · rw [mentions, known]
  | some r =>
    obtain ⟨full, value⟩ := r
    cases value with
    | some v =>
      refine .inl ⟨v, fun locals => ?_⟩
      rw [identPlan, known]
    | none =>
      cases full with
      | some full =>
        refine .inr (.inl ⟨full, fun locals => ⟨?_, ?_⟩⟩)
        · rw [identPlan, known]
        · rw [mentions, known]
      | none =>
        refine .inr (.inr fun locals => ⟨?_, ?_⟩)
        · rw [identPlan, known]
        · rw [mentions, known]

theorem identPlan_reads {id : Int} {name : String} (misses : c.Misses hidden outer bound id name) :
    (c.identPlan (bound ++ outer) id name).Made (reading (· ≠ hidden)) bound := by
  unfold Misses at misses
  rcases identPlan_cases c id name with ⟨v, plan⟩ | ⟨full, resolved⟩ | unresolved
  · rw [plan]
    exact trivial
  · obtain ⟨plan, names⟩ := resolved (bound ++ outer)
    rw [names] at misses
    rw [plan]
    exact ⟨misses, trivial⟩
  · obtain ⟨plan, names⟩ := unresolved (bound ++ outer)
    rw [plan]
    split
    · next isLocal =>
      rw [names, if_pos isLocal] at misses
      exact ⟨misses, trivial⟩
    · next isGlobal =>
      rw [names, if_neg isGlobal] at misses
      exact ⟨fun n member => misses n (List.mem_cons_of_mem _ member), trivial⟩

theorem supplies_reading (plain : c.options.exhaustive = false) :
    Supplies c (reading (· ≠ hidden)) outer (c.Overlooks hidden outer) where
  calls _ _ := trivial
  ident misses := identPlan_reads misses
  resolved known overlooks := identPlan_reads (overlooks known)
  wraps _ _ _ := trivial
  values exhausts := by
    rw [plain] at exhausts
    cases exhausts

theorem identPlan_overlooks (apart : ∀ name, name ≠ hidden → (name ∈ outer ↔ name ∈ outer'))
    {id : Int} {name : String} (misses : c.Misses hidden outer bound id name) :
    c.identPlan (bound ++ outer') id name = c.identPlan (bound ++ outer) id name := by
  unfold Misses at misses
  rcases identPlan_cases c id name with ⟨v, plan⟩ | ⟨full, resolved⟩ | unresolved
  · rw [plan, plan]
  · rw [(resolved _).1, (resolved _).1]
  · have own : name ∈ bound ∨ name ≠ hidden := by
      rw [(unresolved _).2] at misses
      apply misses
      split <;> exact List.mem_cons_self
    have same : name ∈ bound ++ outer' ↔ name ∈ bound ++ outer := by
      rw [List.mem_append, List.mem_append]
      rcases own with inner | visible
      · exact iff_of_true (.inl inner) (.inl inner)
      · rw [apart name visible]
    simp only [(unresolved _).1, same]

variable [HostObjects]

mutual

/-- An expression that overlooks the hidden name is planned alike in loops that bind it or not. -/
theorem planExpr_overlooks (apart : ∀ name, name ≠ hidden → (name ∈ outer ↔ name ∈ outer'))
    (e : Expr) {bound : List String} (overlooks : e.Everywhere (c.Overlooks hidden outer) bound) :
    c.planExpr e (bound ++ outer') = c.planExpr e (bound ++ outer) := by
  match e with
  | .literal id v => rfl
  | .ident id name => rw [planExpr, planExpr, identPlan_overlooks apart overlooks]
  | .select id operand field =>
    rw [planExpr, planExpr]
    split
    · next known => rw [identPlan_overlooks apart (overlooks.1 known)]
    · rw [planExpr_overlooks apart operand overlooks.2]
  | .presence id operand field =>
    rw [planExpr, planExpr, planExpr_overlooks apart operand overlooks.2]
  | .call id function args =>
    rw [planExpr, planExpr, planAll_overlooks apart args overlooks.2]
  | .member id target function args =>
    rw [planExpr, planExpr, planExpr_overlooks apart target overlooks.2.1,
      planAll_overlooks apart args overlooks.2.2]
  | .list id elements => rw [planExpr, planExpr, planAll_overlooks apart elements overlooks.2]
  | .mapping id entries => rw [planExpr, planExpr, planKeyed_overlooks apart entries overlooks.2]
  | .object id name entries =>
    have fields (full : String) := planFields_overlooks apart full entries overlooks.2
    simp only [planExpr, fields]
  | .loop id iterVar range accuVar init condition step result =>
    obtain ⟨-, ranged, started, conditioned, stepped, resulted⟩ := overlooks
    have ranges := planExpr_overlooks apart range ranged
    have inits := planExpr_overlooks apart init started
    have conditions := planExpr_overlooks apart condition conditioned
    have steps := planExpr_overlooks apart step stepped
    have results := planExpr_overlooks apart result resulted
    -- The loop binds its names before `outer`, where the hidden name may be bound anew.
    simp only [List.cons_append] at conditions steps results
    simp only [planExpr, ranges, inits, conditions, steps, results]

theorem planAll_overlooks (apart : ∀ name, name ≠ hidden → (name ∈ outer ↔ name ∈ outer'))
    (es : List Expr) {bound : List String}
    (overlooks : Expr.EverywhereAll (c.Overlooks hidden outer) es bound) :
    c.planAll es (bound ++ outer') = c.planAll es (bound ++ outer) := by
  match es with
  | [] => rfl
  | e :: rest =>
    rw [planAll, planAll, planExpr_overlooks apart e overlooks.1,
      planAll_overlooks apart rest overlooks.2]

theorem planKeyed_overlooks (apart : ∀ name, name ≠ hidden → (name ∈ outer ↔ name ∈ outer'))
    (entries : List Entry) {bound : List String}
    (overlooks : Expr.EverywhereIn (c.Overlooks hidden outer) entries bound) :
    c.planKeyed entries (bound ++ outer') = c.planKeyed entries (bound ++ outer) := by
  match entries with
  | [] => rfl
  | .field id name value :: rest => rfl
  | .keyed id key value :: rest =>
    rw [planKeyed, planKeyed, planExpr_overlooks apart key overlooks.1,
      planExpr_overlooks apart value overlooks.2.1, planKeyed_overlooks apart rest overlooks.2.2]

theorem planFields_overlooks (apart : ∀ name, name ≠ hidden → (name ∈ outer ↔ name ∈ outer'))
    (typeName : String) (entries : List Entry) {bound : List String}
    (overlooks : Expr.EverywhereIn (c.Overlooks hidden outer) entries bound) :
    c.planFields typeName entries (bound ++ outer') =
      c.planFields typeName entries (bound ++ outer) := by
  match entries with
  | [] => rfl
  | .keyed id key value :: rest => rfl
  | .field id name value :: rest =>
    rw [planFields, planFields, planExpr_overlooks apart value overlooks.1,
      planFields_overlooks apart typeName rest overlooks.2]

end

theorem value_overlooks (plain : c.options.exhaustive = false)
    (dotted : ∀ name field, name ++ "." ++ field ≠ hidden) {e : Expr} {p : Plan}
    (planned : outcome (c.planExpr e (bound ++ outer)) = .ok p)
    (overlooks : e.Everywhere (c.Overlooks hidden outer) bound) {s t : Scope}
    (agree : s.Agree bound (· ≠ hidden) t) :
    (p.eval c.provider false s).value = (p.eval c.provider false t).value := by
  have reads : p.Made (reading (· ≠ hidden)) bound :=
    made_of_planned (supplies_reading plain) (planned_of_outcome c e _ planned) overlooks
  exact value_agree dotted c.provider reads false agree

end Planner

end ExprEngine
