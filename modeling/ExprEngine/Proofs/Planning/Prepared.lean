import ExprEngine.Proofs.Planning.Folding
import ExprEngine.Proofs.Overload.Registration
import ExprEngine.Proofs.Value.Unknowns

/-!
# Prepared calls

A call that is prepared for a constant list or pattern has the value of the plain call, as long as
the standard overload comes first under its name.
-/

namespace ExprEngine

namespace Key

theorem toValue_of_ofValue? {v : Value} {k : Key} (isKey : ofValue? v = some k) :
    v = k.toValue := by
  cases v <;> simp only [ofValue?, Option.some.injEq, reduceCtorEq] at isKey <;>
    (subst isKey; rfl)

theorem isFailure_toValue (k : Key) : k.toValue.isFailure = false := by cases k <;> rfl

variable [HostObjects]

theorem equal_toValue (j k : Key) : j.toValue.equal k.toValue = .bool (decide (j = k)) := by
  cases j <;> cases k <;>
    simp [toValue, Value.equal, Value.propagate, Value.unknownOf, Value.isError, beq_eq_decide]

end Key

namespace Value

theorem propagate_regular {vs : List Value} (regular : ∀ v ∈ vs, v.isFailure = false) :
    propagate vs = none := by
  have known : unknownOf vs = none := unknownOf_eq_none.mpr fun v member => by
    have first := regular v member
    cases v <;> first | rfl | simp [isFailure] at first
  have found : vs.find? isError = none := by
    apply List.find?_eq_none.mpr
    intro v member isError
    have first := regular v member
    cases v <;> simp [isFailure, Value.isError] at first isError
  simp [propagate, known, found]

theorem strict_regular {vs : List Value} (regular : ∀ v ∈ vs, v.isFailure = false)
    (result : Value) : strict vs result = result := by
  rw [strict, propagate_regular regular, Option.getD_none]

theorem strict_failure {v w : Value} (failed : v.isFailure = true) (regular : w.isFailure = false)
    (result : Value) : strict [v, w] result = v := by
  cases v with
  | error e => cases w <;> first | rfl | simp [isFailure] at regular
  | unknown s => cases w <;> first | rfl | simp [isFailure] at regular
  | _ => simp [isFailure] at failed

variable [HostObjects]

theorem memberAmong_toValue (key : Key) {items : List Value} {keys : List Key}
    (read : Plan.keysOf? items = some keys) :
    memberAmong key.toValue items none = .bool (decide (key ∈ keys)) := by
  induction items generalizing keys with
  | nil =>
    obtain rfl := Option.some.inj read
    rfl
  | cons item rest ih =>
    simp only [Plan.keysOf?, Option.bind_eq_bind, Option.bind_eq_some_iff, Option.pure_def] at read
    obtain ⟨k, isKey, ks, others, eq⟩ := read
    obtain rfl := Option.some.inj eq
    rw [memberAmong, Key.toValue_of_ofValue? isKey, Key.equal_toValue]
    by_cases same : k = key
    · simp [same]
    · simp only [same, decide_false, ih others, List.mem_cons, Ne.symm same, false_or]

end Value

variable [HostObjects]

/-- A call goes to the first overload, where that is strict and accepts regular arguments. -/
theorem value_dispatch_first {function : String} {o : Overload} {more : List Overload}
    {args : List Value} (accepted : o.accepts args = true) (strict : o.nonStrict = false)
    (regular : ∀ v ∈ args, v.isFailure = false) :
    (dispatch function (o :: more) args).value = o.result args := by
  simp [dispatch, accepted, strict, Value.propagate_regular regular]

namespace Value

omit [HostObjects] in
theorem unlessFalse_eq (v : Value) : Standard.unlessFalse v = bool (!v.decides false) := by
  cases v with
  | bool b => cases b <;> rfl
  | _ => rfl

/-- The guard of loops goes to the standard overload, whatever it is called with. -/
theorem called_guard (id : Int) (name : String) (more : List Overload) (v : Value) :
    called id name (Standard.notStrictlyFalse name :: more) [v] = bool (!v.decides false) := by
  rw [← unlessFalse_eq]
  cases v <;> rfl

end Value

namespace Plan

variable {provider : Provider}

def memberOverload (function : String) : Overload :=
  Standard.guardedAt 1 (Standard.binary function fun elem v => v.contains elem) .container

def searchOverload : Overload :=
  { Standard.guardedBy (Standard.binary Operator.search Value.search) .matcher with
    cost := Standard.linearCost }

theorem memberOf_called {id : Int} {function : String} {more : List Overload} {items : List Value}
    {keys : List Key} (read : keysOf? items = some keys)
    (strict : (memberOverload function :: more).any Overload.nonStrict = false) (v : Value) :
    Value.memberOf id items keys.eraseDups function (memberOverload function :: more) v =
      Value.called id function (memberOverload function :: more) [v, .list items] := by
  rw [Value.memberOf, Value.called, strict]
  cases failed : v.isFailure with
  | true => exact (Value.strict_failure failed rfl _).symm
  | false =>
    have regular : ∀ w ∈ [v, .list items], w.isFailure = false := by
      intro w member
      rcases List.mem_cons.mp member with rfl | member
      · exact failed
      · rw [List.mem_singleton.mp member]
        rfl
    simp only [Bool.false_eq_true, ↓reduceIte, Value.strict_regular regular]
    cases isKey : Key.ofValue? v with
    | none => rfl
    | some key =>
      obtain rfl := Key.toValue_of_ofValue? isKey
      have result : (memberOverload function).result [key.toValue, .list items] =
          .bool (decide (key ∈ keys)) := by
        have among := Value.memberAmong_toValue key read
        have listed : ∀ w ∈ [Value.list items, key.toValue], w.isFailure = false :=
          fun w member => regular w (by simpa [or_comm] using member)
        exact (Value.strict_regular listed _).trans among
      rw [value_dispatch_first rfl rfl regular, result]
      simp [Value.withExprId]

theorem searched_called {id : Int} {more : List Overload} {source : String}
    {pattern : Regex.Pattern} (read : Regex.Pattern.read? source = some pattern)
    (strict : (searchOverload :: more).any Overload.nonStrict = false) (v : Value) :
    Value.searched id source pattern Operator.search (searchOverload :: more) v =
      Value.called id Operator.search (searchOverload :: more) [v, .string source] := by
  rw [Value.called, strict]
  unfold Value.searched
  cases failed : v.isFailure with
  | true =>
    have failure := Value.strict_failure (w := .string source) failed rfl
    simp only [Bool.false_eq_true, ↓reduceIte, failure]
    cases v <;> first | rfl | simp [Value.isFailure] at failed
  | false =>
    have regular : ∀ w ∈ [v, .string source], w.isFailure = false := by
      intro w member
      rcases List.mem_cons.mp member with rfl | member
      · exact failed
      · rw [List.mem_singleton.mp member]
        rfl
    simp only [Bool.false_eq_true, ↓reduceIte, Value.strict_regular regular]
    cases v with
    | string s =>
      have result : searchOverload.result [.string s, .string source] =
          .bool (pattern.matchesIn s) := by
        change Value.search (.string s) (.string source) = _
        rw [Value.search, Value.strict_regular regular]
        simp only [read]
      rw [value_dispatch_first rfl rfl regular, result]
      rfl
    | error e => simp [Value.isFailure] at failed
    | unknown ids => simp [Value.isFailure] at failed
    | _ => rfl

theorem value_prepareCall {id : Int} {function : String} {args : List Plan}
    {overloads : List Overload}
    (member : args.length = 2 → function = Operator.member ∨ function = Operator.memberOld →
      ∃ more, overloads = memberOverload function :: more)
    (search : args.length = 2 → function = Operator.search →
      ∃ more, overloads = searchOverload :: more)
    (everything : Bool) (scope : Scope) :
    (eval provider (prepareCall id function args overloads) everything scope).value =
      (eval provider (call id function args overloads) everything scope).value := by
  unfold prepareCall
  split
  · rfl
  · next strict =>
    have strict : overloads.any Overload.nonStrict = false := by simpa using strict
    split
    · next operand constant =>
      split
      · next items known =>
        split
        · next named =>
          split
          · next keys read =>
            obtain ⟨more, rfl⟩ := member rfl named
            rw [value_membership, value_call, memberOf_called read strict]
            simp only [List.map_cons, List.map_nil, value_of_asConst known]
          · rfl
        · rfl
      · next source known =>
        split
        · next named =>
          split
          · next pattern read =>
            subst named
            obtain ⟨more, rfl⟩ := search rfl rfl
            rw [value_search, value_call, searched_called read strict]
            simp only [List.map_cons, List.map_nil, value_of_asConst known]
          · rfl
        · rfl
      · rfl
    · rfl

/-- With the standard library registered first, its overloads are the ones to prepare for. -/
theorem member_reachable {function : String} (extra : List Overload)
    (named : function = Operator.member ∨ function = Operator.memberOld) :
    ∃ more, ((Registry.standard.addAll extra).find function).filter (·.takes 2) =
      memberOverload function :: more := by
  have member : memberOverload function ∈ Standard.overloads := by
    rcases named with rfl | rfl
    · exact List.mem_of_getElem? (i := 14) rfl
    · exact List.mem_of_getElem? (i := 15) rfl
  obtain ⟨more, found, -⟩ := Registry.find_extended member extra
  have found : (Registry.standard.addAll extra).find function = memberOverload function :: more :=
    found
  exact ⟨more.filter (·.takes 2), by rw [found]; rfl⟩

theorem search_reachable (extra : List Overload) :
    ∃ more, ((Registry.standard.addAll extra).find Operator.search).filter (·.takes 2) =
      searchOverload :: more := by
  have member : searchOverload ∈ Standard.overloads := List.mem_of_getElem? (i := 17) rfl
  obtain ⟨more, found, -⟩ := Registry.find_extended member extra
  have found : (Registry.standard.addAll extra).find Operator.search = searchOverload :: more :=
    found
  exact ⟨more.filter (·.takes 2), by rw [found]; rfl⟩

theorem prepareCall_same {c : Planner} {extra : List Overload}
    (standard : c.registry = Registry.standard.addAll extra) (id : Int) (function : String)
    (args : List Plan) :
    Same c.provider (prepareCall id function args (c.reachable function args.length))
      (call id function args (c.reachable function args.length)) := by
  obtain ⟨-, named, relative, -⟩ :=
    prepareCall_form id function args (c.reachable function args.length)
  refine .of_value (by rw [relative, named]) rfl fun scope => ?_
  apply value_prepareCall
  · intro two member
    rw [Planner.reachable, standard, two]
    exact member_reachable extra member
  · rintro two rfl
    rw [Planner.reachable, standard, two]
    exact search_reachable extra

end Plan

end ExprEngine
