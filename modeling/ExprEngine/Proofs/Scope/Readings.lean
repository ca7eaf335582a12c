import ExprEngine.Host.Namespace
import ExprEngine.Proofs.Evaluation.Steps

/-!
# Readings of unchecked names

The fields after an unchecked name may belong to the name of the variable or be selected from its
value. Each reading takes some of them, the one with the longest name first, and each of its full
names is looked for in the patterns of the scope, in its bindings and among the types.
-/

namespace ExprEngine

namespace Namespace

/-- The dotted names of the leading segments, from all of them to the first one alone. -/
def leading (segments : List (List Char)) : List (List Char) :=
  (List.range segments.length).reverse.map fun k => ['.'].intercalate (segments.take (k + 1))

/-- The names of the namespace and of those around it, longest first; the root has none. -/
def prefixes (n : Namespace) : List String :=
  if n.name.isEmpty then [] else (leading (n.name.toList.splitOn '.')).map String.ofList

theorem leading_cons (s : List Char) (segments : List (List Char)) :
    leading (s :: segments) =
      (List.range segments.length).reverse.map
        (fun k => ['.'].intercalate (s :: segments.take (k + 1))) ++ [s] := by
  simp [leading, List.range_succ_eq_map]

theorem leading_nil_cons {segments : List (List Char)} (some : segments ≠ []) :
    leading ([] :: segments) = (leading segments).map ('.' :: ·) ++ [[]] := by
  obtain ⟨s, rest, rfl⟩ := List.exists_cons_of_ne_nil some
  rw [leading_cons, leading, List.map_map]
  congr 1

theorem leading_modifyHead (c : Char) (segments : List (List Char)) :
    leading (segments.modifyHead (c :: ·)) = (leading segments).map (c :: ·) := by
  cases segments with
  | nil => rfl
  | cons s rest =>
    rw [List.modifyHead_cons, leading_cons, leading_cons, List.map_append, List.map_map]
    congr 1
    apply List.map_congr_left
    intro k _
    cases h : rest.take (k + 1) <;> simp [h]

theorem enclosing_eq_leading (cs : List Char) : enclosing cs = leading (cs.splitOn '.') := by
  induction cs with
  | nil => rfl
  | cons c rest ih =>
    rw [enclosing, ih, List.splitOn_cons_eq_if_modifyHead]
    by_cases dot : c = '.'
    · subst dot
      rw [if_pos rfl, if_pos (by simp), leading_nil_cons (List.splitOn_ne_nil '.' rest)]
    · rw [if_neg dot, if_neg (by simpa using dot), leading_modifyHead, List.append_nil]

/-- A leading dot makes a name absolute; any other name is looked for in the namespace, in those
around it, and as it stands. -/
theorem candidates_eq (n : Namespace) (name : String) :
    n.candidates name =
      if name.toList.head? = some '.' then [String.ofList name.toList.tail]
      else n.prefixes.map (· ++ "." ++ name) ++ [name] := by
  unfold candidates prefixes
  split
  · next rest absolute => simp [absolute]
  · next relative =>
    have plain : name.toList.head? ≠ some '.' := by
      intro dotted
      obtain ⟨rest, absolute⟩ := List.head?_eq_some_iff.mp dotted
      exact relative rest absolute
    rw [if_neg plain]
    split
    · rfl
    · rw [List.map_map, enclosing_eq_leading]
      rfl

theorem candidates_ne_nil (n : Namespace) (name : String) : n.candidates name ≠ [] := by
  rw [candidates_eq]
  split <;> simp

end Namespace

/-- One way to read an unchecked name with qualifiers: a variable by one of several full names, and
the qualifiers of its value. -/
structure Reading where
  id : Int
  names : List String
  qualifiers : List Qualifier

structure Selection where
  id : Int
  field : String
  access : Option (String × FieldAccess)

namespace Selection

def qualifier (s : Selection) : Qualifier := .field s.id s.field s.access

def dotted (name : String) (selections : List Selection) : String :=
  selections.foldl (fun name s => name ++ "." ++ s.field) name

/-- The id of the last selection, or else of the identifier. -/
def lastId (id : Int) (selections : List Selection) : Int :=
  (selections.getLast?.map Selection.id).getD id

end Selection

namespace Attribute

/-- The readings of an unchecked name, in the order in which they are tried. -/
def readings : Attribute → List Reading
  | ambiguous id names qs =>
    (Interpretation.all id names 0 (qs.map Qualifier.label)).map fun i =>
      ⟨i.id, i.names, qs.drop i.taken⟩
  | _ => []

end Attribute

namespace Reading

def all (id : Int) (names : List String) : List Qualifier → List Reading
  | [] => [⟨id, names, []⟩]
  | q :: rest =>
    match q.label.field with
    | some field =>
      if names.isEmpty then [⟨id, names, q :: rest⟩]
      else all q.label.id (names.map (· ++ "." ++ field)) rest ++ [⟨id, names, q :: rest⟩]
    | none => [⟨id, names, q :: rest⟩]

theorem map_all_eq (id : Int) (names : List String) (before qs : List Qualifier) :
    (Interpretation.all id names before.length (qs.map Qualifier.label)).map
        (fun i => (⟨i.id, i.names, (before ++ qs).drop i.taken⟩ : Reading)) =
      all id names qs := by
  induction qs generalizing id names before with
  | nil => simp [Interpretation.all, all]
  | cons q rest ih =>
    have single : (⟨id, names, (before ++ q :: rest).drop before.length⟩ : Reading) =
        ⟨id, names, q :: rest⟩ := by rw [List.drop_left]
    rw [List.map_cons, Interpretation.all, all]
    cases q.label.field with
    | none => exact congrArg (· :: []) single
    | some field =>
      dsimp only
      split
      · exact congrArg (· :: []) single
      · have later := ih q.label.id (names.map (· ++ "." ++ field)) (before ++ [q])
        rw [List.length_append, List.length_singleton, List.append_assoc,
          List.singleton_append] at later
        rw [List.map_append, later, List.map_singleton, single]

end Reading

namespace Attribute

theorem readings_ambiguous (id : Int) (names : List String) (qs : List Qualifier) :
    (ambiguous id names qs).readings = Reading.all id names qs :=
  Reading.map_all_eq id names [] qs

end Attribute

namespace Reading

/-- The readings after one more qualifier. A field may belong to the names that have no qualifiers
yet. -/
def extend (readings : List Reading) (q : Qualifier) : List Reading :=
  let longer : List String :=
    match q.label.field with
    | some field =>
      (readings.filter (·.qualifiers.isEmpty)).flatMap fun r => r.names.map (· ++ "." ++ field)
    | none => []
  (if longer.isEmpty then [] else [⟨q.label.id, longer, []⟩]) ++
    readings.map fun r => { r with qualifiers := r.qualifiers ++ [q] }

theorem extend_append (readings : List Reading) (id : Int) (names : List String) (p : Qualifier)
    (qs : List Qualifier) (q : Qualifier) :
    extend (readings ++ [⟨id, names, p :: qs⟩]) q =
      extend readings q ++ [⟨id, names, p :: qs ++ [q]⟩] := by
  simp [extend]

theorem all_append (id : Int) (names : List String) (qs : List Qualifier) (q : Qualifier) :
    all id names (qs ++ [q]) = extend (all id names qs) q := by
  induction qs generalizing id names with
  | nil =>
    cases selects : q.label.field with
    | none => simp [all, extend, selects]
    | some field => cases names <;> simp [all, extend, selects]
  | cons p rest ih =>
    have single : extend [⟨id, names, p :: rest⟩] q = [⟨id, names, p :: rest ++ [q]⟩] := by
      cases selects : q.label.field <;> simp [extend, selects]
    rw [List.cons_append, all, all]
    cases p.label.field with
    | none => exact single.symm
    | some field =>
      dsimp only
      split
      · exact single.symm
      · rw [ih, extend_append]
        rfl

theorem all_of_no_field (id : Int) (names : List String) {qs : List Qualifier}
    (ends : ∀ q, qs.head? = some q → q.label.field = none) :
    all id names qs = [⟨id, names, qs⟩] := by
  cases qs with
  | nil => rfl
  | cons q rest => rw [all, ends q rfl]

/-- The reading that takes so many of the fields after a name as part of the name. -/
def taking (id : Int) (names : List String) (fields : List Selection) (rest : List Qualifier)
    (k : Nat) : Reading where
  id := Selection.lastId id (fields.take k)
  names := names.map (Selection.dotted · (fields.take k))
  qualifiers := (fields.drop k).map Selection.qualifier ++ rest

theorem taking_zero (id : Int) (names : List String) (fields : List Selection)
    (rest : List Qualifier) :
    taking id names fields rest 0 = ⟨id, names, fields.map Selection.qualifier ++ rest⟩ := by
  simp [taking, Selection.lastId, Selection.dotted]

theorem taking_succ (id : Int) (names : List String) (f : Selection) (fields : List Selection)
    (rest : List Qualifier) (k : Nat) :
    taking id names (f :: fields) rest (k + 1) =
      taking f.id (names.map (· ++ "." ++ f.field)) fields rest k := by
  have last : Selection.lastId id (f :: fields.take k) = Selection.lastId f.id (fields.take k) := by
    rw [Selection.lastId, List.getLast?_cons, Selection.lastId]
    cases (fields.take k).getLast? <;> rfl
  rw [taking, taking, List.take_succ_cons, List.drop_succ_cons, last, List.map_map]
  rfl

/-- Each field that a name is followed by may belong to the name. -/
theorem all_selections (id : Int) {names : List String} (named : names ≠ [])
    (fields : List Selection) {rest : List Qualifier}
    (ends : ∀ q, rest.head? = some q → q.label.field = none) :
    all id names (fields.map Selection.qualifier ++ rest) =
      (List.range (fields.length + 1)).reverse.map (taking id names fields rest) := by
  induction fields generalizing id names with
  | nil =>
    have alone := all_of_no_field id names ends
    rw [← List.nil_append rest] at alone
    exact alone.trans (congrArg (· :: []) (taking_zero id names [] rest).symm)
  | cons f fields ih =>
    have longer : names.map (· ++ "." ++ f.field) ≠ [] := by simpa using named
    have nonempty : names.isEmpty = false := by simpa using named
    have taken : (taking id names (f :: fields) rest) ∘ Nat.succ =
        taking f.id (names.map (· ++ "." ++ f.field)) fields rest :=
      funext fun k => taking_succ id names f fields rest k
    rw [List.length_cons, List.range_succ_eq_map (n := fields.length + 1), List.reverse_cons,
      List.map_append, ← List.map_reverse, List.map_map, taken, ← ih f.id longer,
      List.map_singleton, taking_zero, List.map_cons, List.cons_append, all]
    change (if names.isEmpty then _ else _) = _
    rw [nonempty, if_neg Bool.false_ne_true]
    rfl

end Reading

namespace Attribute

theorem readings_qualify (id : Int) (names : List String) (qs : List Qualifier) (q : Qualifier) :
    ((ambiguous id names qs).qualify q).readings =
      Reading.extend (ambiguous id names qs).readings q := by
  rw [qualify_ambiguous, readings_ambiguous, readings_ambiguous, Reading.all_append]

end Attribute

/-! ### Outcomes -/

namespace Qualifier

variable [HostObjects]

def key (provider : Provider) (scope : Scope) : Qualifier → Value
  | field _ name _ => .string name
  | constant _ key => key
  | computed _ key => (key.eval provider false scope).value

/-- A field, or an index by a constant that is no failure. -/
def isFixed : Qualifier → Bool
  | field .. => true
  | constant _ key => !key.isFailure
  | computed .. => false

theorem isUnknown_key {q : Qualifier} (fixed : q.isFixed = true) (provider : Provider)
    (scope : Scope) : (q.key provider scope).isUnknown = false := by
  cases q with
  | field id name access => rfl
  | constant id key =>
    have regular : key.isFailure = false := by simpa [isFixed] using fixed
    cases key <;> first | rfl | cases regular
  | computed id key => cases fixed

end Qualifier

namespace PatternStep

/-- The steps agree with the keys as far as both go. -/
def agree (ps : List PatternStep) (keys : List Value) : Bool :=
  (ps.zip keys).all fun (s, v) => s.covers v

theorem agree_cons (p : PatternStep) (ps : List PatternStep) (v : Value) (keys : List Value) :
    agree (p :: ps) (v :: keys) = (p.covers v && agree ps keys) := rfl

theorem cover_eq (id : Int) (ps : List PatternStep) (path : List (Int × Value)) :
    cover id ps path =
      if agree ps (path.map Prod.snd) then
        some (((path.take ps.length).getLast?.map Prod.fst).getD id)
      else none := by
  induction ps generalizing id path with
  | nil => simp [cover, agree]
  | cons p ps ih =>
    cases path with
    | nil => simp [cover, agree]
    | cons step rest =>
      obtain ⟨next, v⟩ := step
      rw [cover, ih, List.map_cons, agree_cons, List.length_cons, List.take_succ_cons,
        List.getLast?_cons]
      cases p.covers v with
      | false => rfl
      | true =>
        rw [if_pos rfl, Bool.true_and]
        cases (rest.take ps.length).getLast? <;> rfl

end PatternStep

namespace UnknownPattern

/-- The pattern is one of the variable, and its steps agree with the keys. -/
def covers (p : UnknownPattern) (name : String) (keys : List Value) : Bool :=
  p.name == name && PatternStep.agree p.steps keys

end UnknownPattern

namespace Variable

variable {x : Variable} {s : Scope} {name : String}

theorem keys_ok {steps : List Step} {ks : List Value}
    (known : (Step.keys s steps).value = .ok ks) : ks = steps.map fun y => (y.key s).value := by
  induction steps generalizing ks with
  | nil => exact (Except.ok.inj known).symm
  | cons y rest ih =>
    simp only [Step.keys, Run.value_bind, apply_ite Run.value, Run.value_pure] at known
    split at known
    · cases known
    · cases later : (Step.keys s rest).value with
      | error u =>
        rw [later] at known
        cases known
      | ok others =>
        rw [later] at known
        obtain rfl := Except.ok.inj known
        rw [List.map_cons, ih later]

theorem isSome_unknown? {p : UnknownPattern} (listed : p ∈ s.patterns)
    (covers : p.covers name (x.steps.map fun y => (y.key s).value) = true) :
    (x.unknown? s name).value.isSome = true := by
  obtain ⟨named, agrees⟩ := Bool.and_eq_true_iff.mp covers
  have filtered : p ∈ s.patterns.filter (·.name == name) := List.mem_filter.mpr ⟨listed, named⟩
  unfold unknown?
  split
  · next none =>
    rw [none] at filtered
    cases filtered
  · split
    · rfl
    · rw [Run.value_bind]
      cases known : (Step.keys s x.steps).value with
      | error u => rfl
      | ok ks =>
        obtain rfl := keys_ok known
        simp only [Run.value_pure, Option.isSome_map]
        rw [List.findSome?_isSome_iff]
        refine ⟨p, filtered, ?_⟩
        rw [PatternStep.cover_eq, List.map_snd_zip (by simp), if_pos agrees]
        rfl

end Variable

namespace Reading

variable [HostObjects]

def written (r : Reading) : String :=
  r.names.getLast?.getD "" ++ String.join (r.qualifiers.map fun q =>
    match q.label.field with
    | some field => "." ++ field
    | none => "[..]")

/-- The id of the deepest qualifier that a pattern covers, or else of the variable. -/
def deepest (r : Reading) (p : UnknownPattern) : Int :=
  ((r.qualifiers.take p.steps.length).getLast?.map (·.label.id)).getD r.id

/-- What a reading leads to under one of its names: to an unknown, where a pattern covers it, or to
what is selected from the bound value, or to a type, from which nothing is selected. -/
def outcome? (r : Reading) (provider : Provider) (scope : Scope) (name : String) :
    Option Value :=
  let keys := r.qualifiers.map (Qualifier.key provider scope)
  match scope.patterns.find? (·.covers name keys) with
  | some p => some (.unknown (.singleton (r.deepest p)))
  | none =>
    match (scope.resolve name).value with
    | some v => some (Step.walk scope (Plan.steps provider r.qualifiers) v).value
    | none =>
      (provider.findIdent name).map fun known =>
        if r.qualifiers.isEmpty then known else Variable.noSuchAttribute r.id r.written

def variableOf (provider : Provider) (r : Reading) : Variable :=
  ⟨r.id, false, r.names, Plan.steps provider r.qualifiers⟩

variable (provider : Provider) {scope : Scope} {r : Reading}

theorem keys_of_known {qs : List Qualifier}
    (known : ∀ q ∈ qs, (q.key provider scope).isUnknown = false) :
    (Step.keys scope (Plan.steps provider qs)).value =
      .ok (qs.map (Qualifier.key provider scope)) := by
  induction qs with
  | nil => rfl
  | cons q rest ih =>
    obtain ⟨first, others⟩ := List.forall_mem_cons.mp known
    have later := ih others
    cases q <;>
      simp only [Qualifier.key] at first <;>
      simp only [Plan.steps, Step.keys, Run.value_bind, Run.value_pure, first, Bool.false_eq_true,
        ↓reduceIte, later, List.map_cons, Qualifier.key]

theorem isEmpty_steps (qs : List Qualifier) : (Plan.steps provider qs).isEmpty = qs.isEmpty := by
  rcases qs with _ | ⟨_ | _ | _, _⟩ <;> rfl

theorem text_steps (qs : List Qualifier) :
    Step.text (Plan.steps provider qs) = String.join (qs.map fun q =>
      match q.label.field with
      | some field => "." ++ field
      | none => "[..]") := by
  rw [Step.text_eq, Plan.labels_steps, List.map_map]
  rfl

theorem ids_steps (qs : List Qualifier) :
    (Plan.steps provider qs).map Step.id = qs.map (·.label.id) := by
  rw [Step.map_id_eq, Plan.labels_steps, List.map_map]
  rfl

omit [HostObjects] in
theorem findSome?_cover (keys : List Value) (length : keys.length = r.qualifiers.length)
    (name : String) (ps : List UnknownPattern) :
    ((ps.filter (·.name == name)).findSome? fun p =>
        PatternStep.cover r.id p.steps ((r.qualifiers.map (·.label.id)).zip keys)) =
      (ps.find? (·.covers name keys)).map r.deepest := by
  have covered : ∀ p : UnknownPattern,
      PatternStep.cover r.id p.steps ((r.qualifiers.map (·.label.id)).zip keys) =
        if PatternStep.agree p.steps keys then some (r.deepest p) else none := by
    intro p
    have ids : ((r.qualifiers.map (·.label.id)).zip keys).map Prod.fst =
        r.qualifiers.map (·.label.id) := List.map_fst_zip (by simp [length])
    have values : ((r.qualifiers.map (·.label.id)).zip keys).map Prod.snd = keys :=
      List.map_snd_zip (by simp [length])
    rw [PatternStep.cover_eq, values, ← List.getLast?_map, List.map_take, ids, ← List.map_take,
      List.getLast?_map]
    rfl
  induction ps with
  | nil => rfl
  | cons p rest ih =>
    rw [List.filter_cons, List.find?_cons, UnknownPattern.covers]
    cases p.name == name with
    | false => exact ih
    | true =>
      rw [if_pos rfl, List.findSome?_cons, covered, Bool.true_and]
      cases PatternStep.agree p.steps keys with
      | true => rfl
      | false => exact ih

theorem value_unknown? (known : ∀ q ∈ r.qualifiers, (q.key provider scope).isUnknown = false)
    (name : String) :
    ((r.variableOf provider).unknown? scope name).value =
      ((scope.patterns.find? (·.covers name (r.qualifiers.map (Qualifier.key provider scope)))).map
        r.deepest).map fun id => .unknown (.singleton id) := by
  have first := findSome?_cover (r := r) (r.qualifiers.map (Qualifier.key provider scope))
    (List.length_map ..) name scope.patterns
  rw [← first, Variable.unknown?]
  cases listed : scope.patterns.filter (·.name == name) with
  | nil => rfl
  | cons p rest =>
    simp only [variableOf, isEmpty_steps, apply_ite Run.value, Run.value_bind, Run.value_pure,
      keys_of_known provider known, ids_steps]
    split
    · next bare =>
      -- Without qualifiers every pattern of the variable covers it.
      rw [List.isEmpty_iff.mp bare]
      cases steps : p.steps <;> simp [PatternStep.cover]
    · rfl

theorem value_resolveName? (known : ∀ q ∈ r.qualifiers, (q.key provider scope).isUnknown = false)
    (name : String) :
    ((r.variableOf provider).resolveName? provider scope name).value =
      r.outcome? provider scope name := by
  have unmarked : (if (r.variableOf provider).isLocal then none
      else ((r.variableOf provider).unknown? scope name).value) =
      ((r.variableOf provider).unknown? scope name).value := rfl
  rw [Variable.value_resolveName?, unmarked, value_unknown? provider known, outcome?]
  cases scope.patterns.find?
      (·.covers name (r.qualifiers.map (Qualifier.key provider scope))) with
  | some p => rfl
  | none =>
    have typed : (r.variableOf provider).unbound? provider name =
        (provider.findIdent name).map fun known =>
          if r.qualifiers.isEmpty then known else Variable.noSuchAttribute r.id r.written := by
      simp only [Variable.unbound?, variableOf, isEmpty_steps, text_steps, Variable.written,
        written]
    simp only [Option.map_none, typed]
    rfl

end Reading

/-! ### Resolution -/

namespace Attribute

section

variable [HostObjects]

theorem steps_drop (provider : Provider) (qs : List Qualifier) (k : Nat) :
    Plan.steps provider (qs.drop k) = (Plan.steps provider qs).drop k := by
  induction qs generalizing k with
  | nil => simp [Plan.steps]
  | cons q rest ih =>
    cases k with
    | zero => rfl
    | succ k =>
      rw [List.drop_succ_cons, ih]
      cases q <;> rfl

/-- The readings are what the variables are made from that an unchecked name may mean. -/
theorem map_variableOf_readings (provider : Provider) (id : Int) (names : List String)
    (qs : List Qualifier) :
    (ambiguous id names qs).readings.map (Reading.variableOf provider) =
      Variable.ofUnchecked id names (Plan.steps provider qs) := by
  rw [readings, Variable.ofUnchecked, List.map_map, Plan.labels_steps]
  apply List.map_congr_left
  intro i _
  exact congrArg (Variable.mk i.id false i.names) (steps_drop provider qs i.taken)

def isNamed : Attribute → Bool
  | absolute .. | ambiguous .. => true
  | relative .. | conditional .. => false

def isLocal : Attribute → Bool
  | absolute _ isLocal _ _ => isLocal
  | _ => false

/-- The readings of a variable with their names, in the order in which they are tried. -/
def attempts : Attribute → List (Reading × String)
  | absolute id _ names qs => names.map fun name => (⟨id, names, qs⟩, name)
  | ambiguous id names qs =>
    (ambiguous id names qs).readings.flatMap fun r => r.names.map fun name => (r, name)
  | relative .. | conditional .. => []

def variableOf (provider : Provider) (a : Attribute) (r : Reading) : Variable :=
  { r.variableOf provider with isLocal := a.isLocal }

def attempt (provider : Provider) (scope : Scope) (a : Attribute) (p : Reading × String) :
    Run (Option Value) :=
  (a.variableOf provider p.1).resolveName? provider scope p.2

/-- A variable resolves to what its first attempt leads to that leads anywhere. -/
theorem resolve_attempts (provider : Provider) (everything : Bool) (scope : Scope) {a : Attribute}
    (named : a.isNamed = true) :
    ∃ id written, Plan.resolve provider a everything scope = (do
      return (← Variable.firstSome (a.attempt provider scope) a.attempts).getD
        (Variable.noSuchAttribute id written)) := by
  cases a with
  | relative | conditional => cases named
  | absolute id isLocal names qs =>
    refine ⟨id, names.getLast?.getD "", ?_⟩
    rw [attempts, Variable.firstSome_map]
    rfl
  | ambiguous id names qs =>
    refine ⟨id, names.getLast?.getD "" ++ Step.text (Plan.steps provider qs), ?_⟩
    rw [attempts, Variable.firstSome_flatMap, Plan.resolve, Variable.resolveUnchecked,
      ← map_variableOf_readings, Variable.firstSome_map]
    simp only [Variable.firstSome_map]
    rfl

/-- An unchecked name resolves to the outcome of its first reading that has one. -/
theorem value_resolve_ambiguous (provider : Provider) (id : Int) (names : List String)
    {qs : List Qualifier} (everything : Bool) {scope : Scope}
    (known : ∀ q ∈ qs, (q.key provider scope).isUnknown = false) :
    (Plan.resolve provider (ambiguous id names qs) everything scope).value =
      ((ambiguous id names qs).readings.findSome? fun r =>
        r.names.findSome? (r.outcome? provider scope)).getD
          (Variable.noSuchAttribute id (⟨id, names, qs⟩ : Reading).written) := by
  have found : (ambiguous id names qs).readings.findSome?
        (fun r => ((r.variableOf provider).resolve? provider scope).value) =
      (ambiguous id names qs).readings.findSome? fun r =>
        r.names.findSome? (r.outcome? provider scope) := by
    rw [← List.head?_filterMap, ← List.head?_filterMap]
    refine congrArg List.head? (List.filterMap_congr fun r member => ?_)
    obtain ⟨i, -, rfl⟩ := List.mem_map.mp member
    have kept : ∀ q ∈ qs.drop i.taken, (q.key provider scope).isUnknown = false :=
      fun q member => known q (List.mem_of_mem_drop member)
    rw [Variable.resolve?, Variable.value_firstSome]
    exact congrArg (List.findSome? · i.names)
      (funext fun name => Reading.value_resolveName? provider kept name)
  rw [← found, Plan.resolve, Variable.resolveUnchecked]
  simp only [Run.value_bind, Run.value_pure, Variable.value_firstSome,
    ← map_variableOf_readings, List.findSome?_map, Reading.text_steps]
  rfl

/-- An unchecked name with `n` fields after it, and then with indices or more fields, has `n + 1`
readings, of which the one with the longest names comes first. It resolves to the outcome of the
first reading and name that a pattern covers, that the scope binds, or that is a type. -/
theorem resolve_in_reading_order (n : Namespace) (id : Int) (name : String)
    (fields : List Selection) {rest : List Qualifier}
    (ends : ∀ q, rest.head? = some q → q.label.field = none)
    (fixed : ∀ q ∈ rest, q.isFixed = true) :
    let names := n.candidates name
    let qs := fields.map Selection.qualifier ++ rest
    let a := (ambiguous id names []).qualifyAll qs
    names = (if name.toList.head? = some '.' then [String.ofList name.toList.tail]
      else n.prefixes.map (· ++ "." ++ name) ++ [name]) ∧
    a.readings = (List.range (fields.length + 1)).reverse.map
      (Reading.taking id names fields rest) ∧
    ∀ provider everything scope, (Plan.resolve provider a everything scope).value =
      (a.readings.findSome? fun r => r.names.findSome? (r.outcome? provider scope)).getD
        (Variable.noSuchAttribute id (⟨id, names, qs⟩ : Reading).written) := by
  intro names qs a
  have whole : a = ambiguous id names qs := qualifyAll_ambiguous id names [] qs
  refine ⟨n.candidates_eq name, ?_, fun provider everything scope => ?_⟩
  · rw [whole, readings_ambiguous]
    exact Reading.all_selections id (n.candidates_ne_nil name) fields ends
  · rw [whole]
    refine value_resolve_ambiguous provider id names everything fun q member => ?_
    rcases List.mem_append.mp member with selected | indexed
    · obtain ⟨s, -, rfl⟩ := List.mem_map.mp selected
      rfl
    · exact Qualifier.isUnknown_key (fixed q indexed) provider scope

end

attribute [local instance] HostObjects.silent

def fieldsBC : List Selection := [⟨2, "b", none⟩, ⟨3, "c", none⟩]

/-- `a.b.c[0]` in the namespace `acme.billing` -/
def firstOfBC : Attribute :=
  (ambiguous 1 ((⟨"acme.billing"⟩ : Namespace).candidates "a") []).qualifyAll
    (fieldsBC.map Selection.qualifier ++ [.constant 4 (.int 0)])

def accounts : Scope :=
  .table ((Table.empty.bind "a" (.value (.int 1))).bind "acme.a.b"
    (.value (.map (Entries.single (.string "c") (.list [.int 7])))))

theorem firstOfBC_in_reading_order :
    (∀ q, [Qualifier.constant 4 (.int 0)].head? = some q → q.label.field = none) ∧
      (∀ q ∈ [Qualifier.constant 4 (.int 0)], q.isFixed = true) ∧
      firstOfBC.readings.map Reading.names =
        [["acme.billing.a.b.c", "acme.a.b.c", "a.b.c"], ["acme.billing.a.b", "acme.a.b", "a.b"],
          ["acme.billing.a", "acme.a", "a"]] ∧
      (Plan.resolve TypeTable.empty.provider firstOfBC false accounts).value = .int 7 := by
  have ends : ∀ q, [Qualifier.constant 4 (.int 0)].head? = some q → q.label.field = none := by
    intro q first
    obtain rfl := Option.some.inj first
    rfl
  have fixed : ∀ q ∈ [Qualifier.constant 4 (.int 0)], q.isFixed = true := by
    intro q member
    obtain rfl := List.mem_singleton.mp member
    rfl
  obtain ⟨-, readings, value⟩ := resolve_in_reading_order ⟨"acme.billing"⟩ 1 "a" fieldsBC ends fixed
  refine ⟨ends, fixed, ?_, ?_⟩
  · exact (congrArg (List.map Reading.names) readings).trans (by decide +kernel)
  · exact (value TypeTable.empty.provider false accounts).trans (by rfl)

end Attribute

end ExprEngine
