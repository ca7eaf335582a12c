import ExprEngine.Proofs.Planning.Prepared

/-!
# Prepared calls and their overloads

A prepared call answers some operands by itself: keys, where it tests membership, and texts, where
it searches for a pattern. All others it leaves to the overloads, as the plain call does. So the two
agree exactly where the overloads, whichever they are, give the same quick answer.
-/

namespace ExprEngine

namespace Value

variable [HostObjects]

variable {id : Int} {function : String} {overloads : List Overload} {v c : Value}

theorem called_strict (strict : overloads.any Overload.nonStrict = false)
    (regular : c.isFailure = false) :
    called id function overloads [v, c] =
      if v.isFailure then v else (dispatch function overloads [v, c]).value.withExprId id := by
  rw [called, strict]
  cases failed : v.isFailure with
  | true => exact strict_failure failed regular _
  | false =>
    apply strict_regular
    simp [failed, regular]

omit [HostObjects] in
theorem withExprId_eq_bool {w : Value} {b : Bool} : w.withExprId id = bool b ↔ w = bool b := by
  cases w <;> simp [withExprId]

theorem memberOf_eq_called_iff (strict : overloads.any Overload.nonStrict = false)
    (items : List Value) (keys : List Key) :
    memberOf id items keys function overloads v =
        called id function overloads [v, .list items] ↔
      ∀ key, Key.ofValue? v = some key →
        (dispatch function overloads [v, .list items]).value = bool (key ∈ keys) := by
  rw [called_strict strict rfl, memberOf]
  cases failed : v.isFailure with
  | true =>
    have noKey : Key.ofValue? v = none := by cases v <;> first | rfl | cases failed
    simp [noKey]
  | false =>
    cases isKey : Key.ofValue? v with
    | none => simp
    | some key =>
      simp only [Bool.false_eq_true, ↓reduceIte, Option.some.injEq, forall_eq']
      rw [eq_comm, withExprId_eq_bool]

theorem searched_eq_called_iff (strict : overloads.any Overload.nonStrict = false)
    (source : String) (pattern : Regex.Pattern) :
    searched id source pattern function overloads v =
        called id function overloads [v, .string source] ↔
      ∀ s, v = .string s →
        (dispatch function overloads [v, .string source]).value = bool (pattern.matchesIn s) := by
  rw [called_strict strict rfl]
  cases v with
  | string s =>
    change bool (pattern.matchesIn s) = Value.withExprId _ id ↔ _
    rw [eq_comm, withExprId_eq_bool]
    simp
  | _ => simp [searched, isFailure]

end Value

namespace Plan

theorem prepareCall_cases (id : Int) (function : String) (args : List Plan)
    (overloads : List Overload) :
    prepareCall id function args overloads = call id function args overloads ∨
      overloads.any Overload.nonStrict = false ∧ ∃ operand constant, args = [operand, constant] ∧
        ((∃ items keys, constant.asConst? = some (.list items) ∧
          prepareCall id function args overloads =
            membership id operand items keys function overloads) ∨
        ∃ source pattern, constant.asConst? = some (.string source) ∧
          prepareCall id function args overloads =
            search id operand source pattern function overloads) := by
  unfold prepareCall
  split
  · exact .inl rfl
  · next strict =>
    have strict : overloads.any Overload.nonStrict = false := by simpa using strict
    split
    · next operand constant =>
      split
      · next items known =>
        split
        · split
          · exact .inr ⟨strict, _, _, rfl, .inl ⟨_, _, known, rfl⟩⟩
          · exact .inl rfl
        · exact .inl rfl
      · next source known =>
        split
        · split
          · exact .inr ⟨strict, _, _, rfl, .inr ⟨_, _, known, rfl⟩⟩
          · exact .inl rfl
        · exact .inl rfl
      · exact .inl rfl
    · exact .inl rfl

section

variable [HostObjects]

variable {provider : Provider}

/-- What a prepared call answers without asking its overloads. -/
def quickAnswer? (provider : Provider) (scope : Scope) : Plan → Option Value
  | membership _ element _ keys _ _ =>
    (Key.ofValue? (eval provider element false scope).value).map fun key => .bool (key ∈ keys)
  | search _ text _ pattern _ _ =>
    match (eval provider text false scope).value with
    | .string s => some (.bool (pattern.matchesIn s))
    | _ => none
  | _ => none

/-- A prepared call has the value of the plain one exactly where the overloads give its quick
answer. -/
theorem value_prepareCall_iff (id : Int) (function : String) (args : List Plan)
    (overloads : List Overload) (everything : Bool) (scope : Scope) :
    (eval provider (prepareCall id function args overloads) everything scope).value =
        (eval provider (call id function args overloads) everything scope).value ↔
      ∀ answer, (prepareCall id function args overloads).quickAnswer? provider scope = some answer →
        (dispatch function overloads
          (args.map fun p => (eval provider p false scope).value)).value = answer := by
  rcases prepareCall_cases id function args overloads with plain | ⟨strict, operand, constant, rfl,
    ⟨items, keys, known, prepared⟩ | ⟨source, pattern, known, prepared⟩⟩
  · simp [plain, quickAnswer?]
  · rw [prepared, value_membership, value_call]
    simp only [List.map_cons, List.map_nil, value_of_asConst known,
      Value.memberOf_eq_called_iff strict, quickAnswer?, Option.map_eq_some_iff]
    constructor
    · rintro agrees _ ⟨key, isKey, rfl⟩
      exact agrees key isKey
    · exact fun agrees key isKey => agrees _ ⟨key, isKey, rfl⟩
  · rw [prepared, value_search, value_call]
    simp only [List.map_cons, List.map_nil, value_of_asConst known,
      Value.searched_eq_called_iff strict, quickAnswer?]
    constructor
    · intro agrees answer quick
      split at quick
      · next s isText =>
        obtain rfl := Option.some.inj quick
        exact agrees s isText
      · cases quick
    · intro agrees s isText
      exact agrees _ (by rw [isText])

end

attribute [local instance] HostObjects.silent

/-- With an overload of its own in the first place, or without any, the plain call decides
otherwise. -/
theorem prepared_calls_differ :
    let never : Overload :=
      { id := Operator.member, implementation := .binary fun _ _ => .ok (.bool false) }
    let args := [attr 1 (.absolute 1 false ["x"] []), const 2 (.list [.int 1])]
    let value (p : Plan) := (eval TypeTable.empty.provider p false
      (.table (Table.empty.bind "x" (.value (.int 1))))).value
    (value (prepareCall 3 Operator.member args [never]) = .bool true ∧
        value (call 3 Operator.member args [never]) = .bool false) ∧
      (value (prepareCall 3 Operator.member args []) = .bool true ∧
        value (call 3 Operator.member args []) =
          (Value.noSuchOverload Operator.member [.int 1, .list [.int 1]]).withExprId 3) :=
  ⟨⟨rfl, rfl⟩, rfl, rfl⟩

end Plan

end ExprEngine
