import ExprEngine.Proofs.Evaluation.Scopes
import ExprEngine.Proofs.Planning.Congruence
import ExprEngine.Proofs.Planning.Made
import ExprEngine.Proofs.Scope.Readings

/-!
# Marked elements of lists

A pattern marks an element of a list by one key, and several keys denote the element: its position
as a signed and as an unsigned number, and its position from the end. What an index under a key
that is not marked leads to is in sight. Where all keys of an element are marked, no expression
depends on the element.
-/

namespace ExprEngine

namespace Key

/-- The key denotes a position of a list with so many items. -/
def denotes (length position : Nat) : Key → Bool
  | int i => (if i.toInt < 0 then i.toInt + length else i.toInt) == (position : Int)
  | uint u => u.toNat == position
  | bool _ | string _ => false

/-- A position has three keys: as a signed and as an unsigned number, and from the end. -/
theorem denotes_iff {length position : Nat} (inside : position < length)
    (short : length < 0x8000000000000000) (k : Key) :
    k.denotes length position = true ↔ k = .int (Int64.ofNat position) ∨
      k = .int (Int64.ofInt (position - length)) ∨ k = .uint (UInt64.ofNat position) := by
  have forward : (Int64.ofNat position).toInt = position := Int64.toInt_ofNat_of_lt (by omega)
  have backward : (Int64.ofInt (position - length)).toInt = position - length :=
    Int64.toInt_ofInt_of_le (by omega) (by omega)
  have unsigned : (UInt64.ofNat position).toNat = position :=
    UInt64.toNat_ofNat_of_lt' (by rw [UInt64.size]; omega)
  cases k with
  | bool | string => simp [denotes]
  | uint u =>
    rw [denotes, beq_iff_eq]
    constructor
    · rintro rfl
      exact .inr (.inr (by rw [UInt64.ofNat_toNat]))
    · rintro (same | same | same)
      · cases same
      · cases same
      · rw [Key.uint.inj same, unsigned]
  | int j =>
    rw [denotes, beq_iff_eq]
    constructor
    · intro place
      split at place
      · refine .inr (.inl (congrArg Key.int (Int64.toInt_inj.mp ?_)))
        rw [backward]
        omega
      · refine .inl (congrArg Key.int (Int64.toInt_inj.mp ?_))
        rw [forward]
        exact place
    · rintro (same | same | same)
      · rw [Key.int.inj same, forward, if_neg (by omega)]
      · rw [Key.int.inj same, backward, if_pos (by omega)]
        omega
      · cases same

end Key

section

variable [HostObjects]

namespace Value

variable {items : List Value} {i : Nat} (w : Value)

omit [HostObjects] in
theorem itemAt_set {index : Int}
    (apart : (if index < 0 then index + items.length else index) ≠ (i : Int)) :
    itemAt (items.set i w) index = itemAt items index := by
  rw [itemAt, itemAt, itemAt?, itemAt?, List.length_set]
  generalize (if index < 0 then index + (items.length : Int) else index) = place at apart ⊢
  split
  · next inside => rw [List.getElem?_set_ne (by omega)]
  · rfl

theorem index_set {key : Value}
    (apart : ∀ k, Key.ofValue? key = some k → k.denotes items.length i = false) :
    (list (items.set i w)).index key = (list items).index key := by
  cases key with
  | int j =>
    have place : itemAt (items.set i w) j.toInt = itemAt items j.toInt :=
      itemAt_set w (by simpa [Key.denotes] using apart (.int j) rfl)
    exact congrArg (strict [list items, int j]) place
  | uint u =>
    have position : u.toNat ≠ i := by simpa [Key.denotes] using apart (.uint u) rfl
    have place : itemAt (items.set i w) u.toNat = itemAt items u.toNat :=
      itemAt_set w (by omega)
    exact congrArg (strict [list items, uint u]) place
  | _ => rfl

end Value

namespace Plan

variable {provider : Provider} {s t : Scope}

theorem map_key_steps (qs : List Qualifier) :
    (steps provider qs).map (fun x => (x.key s).value) = qs.map (Qualifier.key provider s) := by
  induction qs with
  | nil => rfl
  | cons q rest ih =>
    rw [List.map_cons, ← ih]
    cases q <;> rfl

theorem walk_set {items : List Value} {i : Nat} (w : Value) {q : Qualifier} (rest : List Qualifier)
    (apart : ∀ k, Key.ofValue? (q.key provider s) = some k → k.denotes items.length i = false) :
    (Step.walk s (steps provider (q :: rest)) (.list (items.set i w))).value =
      (Step.walk s (steps provider (q :: rest)) (.list items)).value := by
  cases q with
  | field id name access => cases access <;> rfl
  | constant id key =>
    have found : (Value.list (items.set i w)).indexConstant key =
        (Value.list items).indexConstant key := by
      rw [Value.indexConstant_eq, Value.indexConstant_eq]
      exact Value.index_set w apart
    exact congrArg (fun v => (Step.walk s (steps provider rest) (v.withExprId id)).value) found
  | computed id key =>
    have found : (Value.list (items.set i w)).index (key.eval provider false s).value =
        (Value.list items).index (key.eval provider false s).value := Value.index_set w apart
    exact congrArg (fun v => (Step.walk s (steps provider rest) (v.withExprId id)).value) found

end Plan

namespace Variable

variable {x : Variable} {s t : Scope} {name : String}

/-- A list and the list with another item lead to the same value, unless the first key denotes the
item and is not marked. -/
theorem resolveName?_set {provider : Provider} {qs : List Qualifier}
    (has : x.steps = Plan.steps provider qs) (agreeing : ∀ y ∈ x.steps, y.Agrees s t)
    (patterns : s.patterns = t.patterns) {items : List Value} {i : Nat} {w : Value}
    (here : (s.resolve name).value = some (.list items))
    (there : (t.resolve name).value = some (.list (items.set i w))) (free : x.isLocal = false)
    (exposed : (x.unknown? s name).value = none → ∃ q rest, qs = q :: rest ∧
      ∀ k, Key.ofValue? (q.key provider s) = some k → k.denotes items.length i = false) :
    (x.resolveName? provider s name).value = (x.resolveName? provider t name).value := by
  have marked := unknown?_agree agreeing patterns name
  rw [value_resolveName?, value_resolveName?, free, here, there, ← marked]
  cases unknown : (x.unknown? s name).value with
  | some u => rfl
  | none =>
    obtain ⟨q, rest, rfl, apart⟩ := exposed unknown
    have walked := Step.walk_agree agreeing (.list (items.set i w))
    rw [has, Plan.walk_set w rest apart] at walked
    simp only [Bool.false_eq_true, ↓reduceIte, has, walked]

end Variable

end

/-! ### Hidden elements -/

namespace UnknownPattern

/-- The pattern marks the variable, or all that lies under the key. -/
def hides (p : UnknownPattern) (name : String) (key : Value) : Bool :=
  p.name == name && decide (p.steps.length ≤ 1) && PatternStep.agree p.steps [key]

theorem covers_of_hides {p : UnknownPattern} {name : String} {key : Value}
    (hides : p.hides name key = true) (keys : List Value) : p.covers name (key :: keys) = true := by
  obtain ⟨hides, agrees⟩ := Bool.and_eq_true_iff.mp hides
  obtain ⟨named, short⟩ := Bool.and_eq_true_iff.mp hides
  rw [covers, named, Bool.true_and]
  have short : p.steps.length ≤ 1 := by simpa using short
  rcases steps : p.steps with _ | ⟨step, _ | ⟨other, rest⟩⟩
  · rfl
  · rw [steps] at agrees
    exact agrees
  · simp [steps] at short

end UnknownPattern

namespace Scope

/-- Scopes that resolve all names alike but for one, which leads to lists that differ in one
item. -/
structure DiffersAt (name : String) (items : List Value) (i : Nat) (w : Value) (s t : Scope) :
    Prop where
  here : (s.resolve name).value = some (.list items)
  there : (t.resolve name).value = some (.list (items.set i w))
  others : ∀ other, other ≠ name → (s.resolve other).value = (t.resolve other).value

/-- Scopes that differ in a list item, inside loops that bind some names, where the patterns in
force mark the item under all of its keys. -/
structure Conceals (name : String) (items : List Value) (i : Nat) (w : Value)
    (bound : List String) (s t : Scope) : Prop where
  patterns : s.patterns = t.patterns
  marked : ∃ p ∈ s.patterns, p.name = name
  hidden : ∀ k : Key, k.denotes items.length i = true →
    ∃ p ∈ s.patterns, p.hides name k.toValue = true
  resolve : ∀ other, other ≠ name ∨ other ∈ bound →
    (s.resolve other).value = (t.resolve other).value
  here : name ∉ bound → (s.resolve name).value = some (.list items)
  there : name ∉ bound → (t.resolve name).value = some (.list (items.set i w))

variable {name : String} {items : List Value} {i : Nat} {w : Value} {bound : List String}
  {s t : Scope}

theorem Conceals.frame (conceals : Conceals name items i w bound s t) (n : String) (v : Value) :
    Conceals name items i w (n :: bound) (.frame s n v) (.frame t n v) where
  patterns := conceals.patterns
  marked := conceals.marked
  hidden := conceals.hidden
  resolve other seen := by
    simp only [Scope.resolve, apply_ite Run.value]
    split
    · rfl
    · next apart =>
      refine conceals.resolve other ?_
      exact seen.imp_right fun member => (List.mem_cons.mp member).resolve_left apart
  here free := by
    obtain ⟨apart, free⟩ := not_or.mp (mt List.mem_cons.mpr free)
    simp only [Scope.resolve, if_neg apart, conceals.here free]
  there free := by
    obtain ⟨apart, free⟩ := not_or.mp (mt List.mem_cons.mpr free)
    simp only [Scope.resolve, if_neg apart, conceals.there free]

end Scope

section

variable [HostObjects]

namespace Variable

variable {provider : Provider} {x : Variable} {name : String} {items : List Value} {i : Nat}
  {w : Value} {bound : List String} {s t : Scope}

theorem resolveName?_concealed (conceals : s.Conceals name items i w bound t)
    {qs : List Qualifier} (has : x.steps = Plan.steps provider qs)
    (agreeing : ∀ y ∈ x.steps, y.Agrees s t)
    (enclosed : x.isLocal = true → ∀ n ∈ x.names, n ∈ bound) :
    ∀ n ∈ x.names, (x.resolveName? provider s n).value = (x.resolveName? provider t n).value := by
  intro n named
  by_cases seen : n ≠ name ∨ n ∈ bound
  · exact resolveName?_agree agreeing (unknown?_agree agreeing conceals.patterns n)
      (conceals.resolve n seen) provider
  · obtain ⟨same, free⟩ := not_or.mp seen
    obtain rfl := not_not.mp same
    have isGlobal : x.isLocal = false := by
      cases isLocal : x.isLocal with
      | true => exact absurd (enclosed isLocal n named) free
      | false => rfl
    refine resolveName?_set has agreeing conceals.patterns (conceals.here free)
      (conceals.there free) isGlobal fun exposed => ?_
    have sight : ∀ p ∈ s.patterns,
        p.covers n (qs.map (Qualifier.key provider s)) = true → False := by
      intro p listed covers
      have unknown :=
        isSome_unknown? (x := x) listed (by rw [has, Plan.map_key_steps]; exact covers)
      rw [exposed] at unknown
      cases unknown
    cases qs with
    | nil =>
      obtain ⟨p, listed, named⟩ := conceals.marked
      exact (sight p listed (by simp [UnknownPattern.covers, named, PatternStep.agree])).elim
    | cons q rest =>
      refine ⟨q, rest, rfl, fun k isKey => ?_⟩
      by_contra denotes
      obtain ⟨p, listed, hides⟩ := conceals.hidden k (by simpa using denotes)
      rw [← Key.toValue_of_ofValue? isKey] at hides
      exact sight p listed (UnknownPattern.covers_of_hides hides _)

end Variable

namespace Plan

def enclosed : Demand where
  calls _ := True
  names bound isLocal names := isLocal = true → ∀ name ∈ names, name ∈ bound
  wraps _ := True

/-- Plans whose variables of loops are bound do not depend on hidden items. -/
theorem conceals_congruence (provider : Provider) (name : String) (items : List Value) (i : Nat)
    (w : Value) : Congruence enclosed provider (Scope.Conceals name items i w) where
  frame conceals := conceals.frame
  absolute {_ _ _ id isLocal names qs} conceals within agreeing :=
    Variable.resolve_of_names (x := ⟨id, isLocal, names, steps provider qs⟩)
      (Variable.resolveName?_concealed conceals rfl agreeing within)
  ambiguous {bound s t id names qs} conceals _ agreeing := by
    refine Variable.resolveUnchecked_of_names fun x member => ?_
    obtain ⟨isGlobal, kept⟩ := Variable.of_mem_ofUnchecked member
    obtain ⟨r, -, has⟩ : ∃ r ∈ (Attribute.ambiguous id names qs).readings,
        r.variableOf provider = x := by
      rw [← Attribute.map_variableOf_readings] at member
      exact List.mem_map.mp member
    have steps : x.steps = steps provider r.qualifiers := by rw [← has]; rfl
    refine Variable.resolveName?_concealed conceals steps
      (fun y taken => agreeing y (kept y taken)) fun isLocal => ?_
    rw [isGlobal] at isLocal
    cases isLocal

end Plan

end

namespace Planner

open Planning

open Plan hiding id

variable {c : Planner}

theorem identPlan_enclosed (c : Planner) (bound : List String) (id : Int) (name : String) :
    (c.identPlan bound id name).Made enclosed bound := by
  unfold identPlan
  split
  · exact trivial
  · exact ⟨fun isLocal => absurd isLocal Bool.false_ne_true, trivial⟩
  · split
    · next member =>
      exact ⟨fun _ n listed => by rwa [List.mem_singleton.mp listed], trivial⟩
    · exact ⟨fun isLocal => absurd isLocal Bool.false_ne_true, trivial⟩

theorem supplies_enclosed (c : Planner) : Supplies c enclosed [] fun _ _ => True where
  calls _ _ := trivial
  ident {id name bound} _ := by
    rw [List.append_nil]
    exact identPlan_enclosed c bound id name
  resolved {id _ field bound} _ _ := by
    rw [List.append_nil]
    exact identPlan_enclosed c bound id field
  wraps _ _ _ := trivial
  values _ := .inl fun _ => trivial

variable [HostObjects]

theorem enclosed_of_outcome {e : Expr} {p : Plan} (planned : outcome (c.planExpr e []) = .ok p) :
    p.Made enclosed [] := by
  have inside : Planned c e ([] ++ []) p := planned_of_outcome c e [] planned
  exact made_of_planned (supplies_enclosed c) inside
    (Expr.everywhere_of_forall (fun _ _ => trivial) e [])

end Planner

namespace UnknownPattern

/-- Marks an element by its position. -/
def element (name : String) (i : Nat) : UnknownPattern := ⟨name, [.key (.int (Int64.ofNat i))]⟩

theorem hides_element (name : String) (i : Nat) :
    (element name i).hides name (.int (Int64.ofNat i)) = true := by
  simp [element, hides, PatternStep.agree, PatternStep.covers, Key.ofValue?]

end UnknownPattern

namespace Attribute

variable [HostObjects]

variable {provider : Provider} {name : String} {items : List Value} {i : Nat} {w : Value}
  {s t : Scope} {q : Qualifier}

/-- A key that is the same in both scopes leads to the same, where the item that it denotes is
marked. -/
theorem resolveName?_element {x : Variable} (has : x.steps = Plan.steps provider [q])
    (free : x.isLocal = false) (patterns : s.patterns = t.patterns)
    (differs : s.DiffersAt name items i w t) (agreeing : ∀ y ∈ x.steps, y.Agrees s t)
    (covered : ∀ k, Key.ofValue? (q.key provider s) = some k → k.denotes items.length i = true →
      ∃ p ∈ s.patterns, p.covers name [q.key provider s] = true) (n : String) :
    (x.resolveName? provider s n).value = (x.resolveName? provider t n).value := by
  by_cases same : n = name
  · subst same
    refine Variable.resolveName?_set has agreeing patterns differs.here differs.there free
      fun exposed => ⟨q, [], rfl, fun k isKey => ?_⟩
    by_contra denotes
    obtain ⟨p, listed, covers⟩ := covered k isKey (by simpa using denotes)
    have unknown : (x.unknown? s n).value.isSome = true :=
      Variable.isSome_unknown? listed (by rw [has, Plan.map_key_steps]; exact covers)
    rw [exposed] at unknown
    cases unknown
  · exact Variable.resolveName?_agree agreeing (Variable.unknown?_agree agreeing patterns n)
      (differs.others n same) provider

theorem agrees_of_key (index : q.label.field = none) (alike : q.key provider s = q.key provider t) :
    ∀ y ∈ Plan.steps provider [q], y.Agrees s t := by
  intro y member
  cases q with
  | field => cases index
  | constant id key =>
    obtain rfl := List.mem_singleton.mp member
    exact ⟨rfl, fun _ => rfl⟩
  | computed id key =>
    obtain rfl := List.mem_singleton.mp member
    simp only [Qualifier.key] at alike
    exact ⟨alike, fun v => by simp [alike]⟩

end Attribute

namespace Planner

open Planning

open Plan hiding id

/-- An element that a pattern marks by its position has no effect on what an index leads to: where
patterns mark it under its other keys, too, whatever the index is computed from, and otherwise for
an index that does not depend on the element, and is its position or another element's key. -/
theorem resolve_marked_element [HostObjects] (c : Planner) {name : String} {items : List Value}
    {i : Nat} {w : Value} {s t : Scope} (differs : s.DiffersAt name items i w t)
    {ps : List UnknownPattern} (marked : UnknownPattern.element name i ∈ ps) {q : Qualifier}
    (index : q.label.field = none)
    (guarded :
      ((∀ k : Key, k.denotes items.length i = true → k ≠ .int (Int64.ofNat i) →
          ∃ p ∈ ps, p.hides name k.toValue = true) ∧
        ∀ id key, q = .computed id key → ∃ e, outcome (c.planExpr e []) = .ok key) ∨
      (q.key c.provider (.marked s ps) = q.key c.provider (.marked t ps) ∧
        ∀ k, Key.ofValue? (q.key c.provider (.marked s ps)) = some k →
          k.denotes items.length i = true → k ≠ .int (Int64.ofNat i) →
            ∃ p ∈ ps, p.covers name [k.toValue] = true))
    {a : Attribute} {id : Int} {names : List String}
    (indexed : a = .absolute id false names [q] ∨ a = .ambiguous id names [q])
    (everything : Bool) :
    (resolve c.provider a everything (.marked s ps)).value =
      (resolve c.provider a everything (.marked t ps)).value := by
  rcases guarded with ⟨hidden, planned⟩ | ⟨alike, covered⟩
  · have conceals : Scope.Conceals name items i w [] (.marked s ps) (.marked t ps) := by
      refine ⟨rfl, ⟨_, marked, rfl⟩, fun k denotes => ?_, fun other seen => ?_,
        fun _ => differs.here, fun _ => differs.there⟩
      · by_cases position : k = .int (Int64.ofNat i)
        · exact ⟨_, marked, position ▸ UnknownPattern.hides_element name i⟩
        · exact hidden k denotes position
      · exact differs.others other (seen.resolve_right (by simp))
    have made : MadeQualifiers enclosed [q] [] := by
      cases q with
      | field | constant => exact trivial
      | computed id key =>
        obtain ⟨e, planned⟩ := planned id key rfl
        exact ⟨enclosed_of_outcome planned, trivial⟩
    refine resolve_congruent (conceals_congruence c.provider name items i w) ?_ everything conceals
    rcases indexed with rfl | rfl
    · exact ⟨fun isLocal => absurd isLocal Bool.false_ne_true, made⟩
    · exact ⟨fun isLocal => absurd isLocal Bool.false_ne_true, made⟩
  · have agreeing := Attribute.agrees_of_key index alike
    have covers : ∀ k, Key.ofValue? (q.key c.provider (.marked s ps)) = some k →
        k.denotes items.length i = true →
        ∃ p ∈ ps, p.covers name [q.key c.provider (.marked s ps)] = true := by
      intro k isKey denotes
      rw [Key.toValue_of_ofValue? isKey]
      by_cases position : k = .int (Int64.ofNat i)
      · rw [position]
        exact ⟨_, marked, UnknownPattern.covers_of_hides (UnknownPattern.hides_element name i) []⟩
      · exact covered k isKey denotes position
    have inside : Scope.DiffersAt name items i w (.marked s ps) (.marked t ps) :=
      ⟨differs.here, differs.there, differs.others⟩
    have element : ∀ n,
        ((⟨id, false, names, steps c.provider [q]⟩ : Variable).resolveName? c.provider
            (.marked s ps) n).value =
          ((⟨id, false, names, steps c.provider [q]⟩ : Variable).resolveName? c.provider
            (.marked t ps) n).value :=
      Attribute.resolveName?_element rfl rfl rfl inside agreeing covers
    rcases indexed with rfl | rfl
    · exact Variable.resolve_of_names (x := ⟨id, false, names, steps c.provider [q]⟩) fun n _ =>
        element n
    · refine Variable.resolveUnchecked_of_names fun x member n _ => ?_
      have single : Variable.ofUnchecked id names (steps c.provider [q]) =
          [⟨id, false, names, steps c.provider [q]⟩] := by
        rw [← Attribute.map_variableOf_readings, Attribute.readings_ambiguous,
          Reading.all_of_no_field id names (by simpa using index)]
        rfl
      rw [single] at member
      obtain rfl := List.mem_singleton.mp member
      exact element n

/-- Marks the second of three elements under all of its keys. -/
def secondOfThree : List UnknownPattern :=
  [.element "xs" 1, ⟨"xs", [.key (.int (-2))]⟩, ⟨"xs", [.key (.uint 1)]⟩]

def listUnder (items : List Value) : Scope :=
  .function fun name => if name = "xs" then some (.list items) else none

theorem listUnder_differsAt (items : List Value) (i : Nat) (w : Value) :
    (listUnder items).DiffersAt "xs" items i w (listUnder (items.set i w)) where
  here := rfl
  there := rfl
  others other apart := by simp [listUnder, Scope.resolve, apart]

attribute [local instance] HostObjects.silent

def nestedPlanner : Planner :=
  ({} : Environment).planner (.unchecked (.call 5 "_[_]" [.ident 1 "xs",
    .call 4 "_[_]" [.ident 2 "xs", .literal 3 (.int 0)]]))

def firstElement : Plan := .attr 4 (.ambiguous 2 ["xs"] [.constant 4 (.int 0)])

theorem resolve_marked_element_nested :
    outcome (nestedPlanner.planExpr (.call 4 "_[_]" [.ident 2 "xs", .literal 3 (.int 0)]) []) =
        .ok firstElement ∧
      (resolve nestedPlanner.provider (.ambiguous 1 ["xs"] [.computed 5 firstElement]) false
        (.marked (listUnder [.int 2, .int 5, .int 7]) secondOfThree)).value = .int 7 ∧
      (resolve nestedPlanner.provider (.ambiguous 1 ["xs"] [.computed 5 firstElement]) false
        (.marked (listUnder [.int 2, .null, .int 7]) secondOfThree)).value = .int 7 := by
  refine ⟨rfl, rfl, ?_⟩
  have keys : ∀ k : Key, k.denotes 3 1 = true → k ≠ .int (Int64.ofNat 1) →
      ∃ p ∈ secondOfThree, p.hides "xs" k.toValue = true := by
    intro k denotes apart
    rcases (Key.denotes_iff (by decide) (by decide) k).mp denotes with position | rfl | rfl
    · exact absurd position apart
    · exact ⟨⟨"xs", [.key (.int (-2))]⟩, by decide, by decide⟩
    · exact ⟨⟨"xs", [.key (.uint 1)]⟩, by decide, by decide⟩
  have planned : ∀ id key, Qualifier.computed 5 firstElement = .computed id key →
      ∃ e, outcome (nestedPlanner.planExpr e []) = .ok key := by
    rintro id key ⟨⟩
    exact ⟨.call 4 "_[_]" [.ident 2 "xs", .literal 3 (.int 0)], rfl⟩
  have marked : UnknownPattern.element "xs" 1 ∈ secondOfThree := by decide
  have indexed : Attribute.ambiguous 1 ["xs"] [.computed 5 firstElement] =
      .ambiguous 1 ["xs"] [.computed 5 firstElement] := rfl
  have same := resolve_marked_element nestedPlanner
    (listUnder_differsAt [.int 2, .int 5, .int 7] 1 .null) marked rfl (.inl ⟨keys, planned⟩)
    (.inr indexed) false
  exact same.symm.trans rfl

/-- A pattern by the position leaves the other keys of the element in sight, also inside of other
indices. -/
theorem element_leaks :
    (resolve TypeTable.empty.provider (.ambiguous 1 ["xs"] [.constant 2 (.int (-1))]) false
        (.marked (listUnder [.int 5, .int 0]) [.element "xs" 1])).value = .int 0 ∧
      (resolve TypeTable.empty.provider (.ambiguous 1 ["xs"] [.constant 2 (.int (-1))]) false
        (.marked (listUnder [.int 5, .null]) [.element "xs" 1])).value = .null ∧
      (resolve TypeTable.empty.provider (.ambiguous 1 ["xs"] [.constant 2 (.uint 1)]) false
        (.marked (listUnder [.int 5, .int 0]) [.element "xs" 1])).value = .int 0 ∧
      (resolve TypeTable.empty.provider (.ambiguous 1 ["xs"] [.constant 2 (.uint 1)]) false
        (.marked (listUnder [.int 5, .null]) [.element "xs" 1])).value = .null ∧
      (resolve TypeTable.empty.provider (.ambiguous 1 ["xs"] [.computed 4
        (.attr 3 (.ambiguous 2 ["xs"] [.constant 3 (.int (-1))]))]) false
        (.marked (listUnder [.int 5, .int 0]) [.element "xs" 1])).value = .int 5 ∧
      (resolve TypeTable.empty.provider (.ambiguous 1 ["xs"] [.computed 4
        (.attr 3 (.ambiguous 2 ["xs"] [.constant 3 (.int (-1))]))]) false
        (.marked (listUnder [.int 5, .int 1]) [.element "xs" 1])).value =
          .unknown (.singleton 4) :=
  ⟨rfl, rfl, rfl, rfl, rfl, rfl⟩

end Planner

end ExprEngine
