import ExprEngine.Plan.Evaluation

/-!
# Values of plans

The value of a plan as a function of the values of its parts. Short circuits and the order of
evaluation leave traces in the log only.
-/

namespace ExprEngine

namespace Value

@[simp] theorem withExprId_error (e : EvalError) (id : Int) :
    (error e).withExprId id = error (e.withExprId id) := rfl

@[simp] theorem isFailure_withExprId (v : Value) (id : Int) :
    (v.withExprId id).isFailure = v.isFailure := by
  cases v <;> rfl

theorem withExprId_of_some {e : EvalError} {id : Int} (known : e.exprId = some id) (other : Int) :
    (error e).withExprId other = error e := by
  rw [withExprId_error, EvalError.withExprId, known, Option.some_or]
  exact congrArg error (by rw [← known])

theorem eq_of_decides {short : Bool} {v : Value} (h : v.decides short = true) :
    v = bool short := by
  cases v <;> simp_all [decides, asBool?]

variable [HostObjects]

/-- What a call evaluates to, given the values of its arguments. -/
def called (id : Int) (function : String) (overloads : List Overload) (args : List Value) : Value :=
  if overloads.any Overload.nonStrict then
    (dispatch function overloads args).value.withExprId id
  else strict args ((dispatch function overloads args).value.withExprId id)

def memberOf (id : Int) (items : List Value) (keys : List Key) (function : String)
    (overloads : List Overload) (elem : Value) : Value :=
  if elem.isFailure then elem
  else match Key.ofValue? elem with
    | some key => bool (key ∈ keys)
    | none => (dispatch function overloads [elem, list items]).value.withExprId id

def searched (id : Int) (source : String) (pattern : Regex.Pattern) (function : String)
    (overloads : List Overload) (text : Value) : Value :=
  match text with
  | string s => bool (pattern.matchesIn s)
  | v =>
    if v.isFailure then v
    else (dispatch function overloads [v, string source]).value.withExprId id

def notIterable (id : Int) (range : Value) : Value :=
  (failure .noSuchOverload ("type '" ++ range.valueType.name ++ "' is not iterable")).withExprId id

end Value

theorem value_iterate_cons (everything : Bool) (condition step : Value → Value → Run Value)
    (x : Value) (rest : List Value) (accu : Value) :
    (iterate everything condition step (x :: rest) accu).value =
      if (condition accu x).value.isError then .error (condition accu x).value
      else if !everything && (condition accu x).value.decides false then .ok accu
      else if (step accu x).value.isError then .error (step accu x).value
      else (iterate everything condition step rest (step accu x).value).value := by
  simp only [iterate, Run.value_bind, apply_ite Run.value, Run.value_pure]

theorem iterate_congr {everything : Bool}
    {condition condition' step step' : Value → Value → Run Value}
    (sameCondition : ∀ accu x, (condition accu x).value = (condition' accu x).value)
    (sameStep : ∀ accu x, (step accu x).value = (step' accu x).value) (elements : List Value)
    (accu : Value) :
    (iterate everything condition step elements accu).value =
      (iterate everything condition' step' elements accu).value := by
  induction elements generalizing accu with
  | nil => rfl
  | cons x rest ih =>
    rw [value_iterate_cons, value_iterate_cons, sameCondition, sameStep, ih]

namespace Plan

variable [HostObjects]

variable (provider : Provider)

theorem value_attr (id : Int) (a : Attribute) (everything : Bool) (scope : Scope) :
    (eval provider (attr id a) everything scope).value =
      (resolve provider a everything scope).value := rfl

theorem value_both (id : Int) (l r : Plan) (everything : Bool) (scope : Scope) :
    (eval provider (both id l r) everything scope).value =
      Value.combine id false (eval provider l false scope).value
        (eval provider r false scope).value := by
  simp only [eval, Run.value_bind, apply_ite Run.value, Run.value_pure]
  unfold Value.combine
  split <;> simp_all

theorem value_either (id : Int) (l r : Plan) (everything : Bool) (scope : Scope) :
    (eval provider (either id l r) everything scope).value =
      Value.combine id true (eval provider l false scope).value
        (eval provider r false scope).value := by
  simp only [eval, Run.value_bind, apply_ite Run.value, Run.value_pure]
  unfold Value.combine
  split <;> simp_all

theorem value_conditional (id : Int) (g t f : Plan) (everything : Bool) (scope : Scope) :
    (eval provider (conditional id g t f) everything scope).value =
      Value.select id (eval provider g false scope).value (eval provider t false scope).value
        (eval provider f false scope).value := by
  cases everything with
  | true => rfl
  | false =>
    simp only [eval, Run.value_bind]
    cases (eval provider g false scope).value with
    | bool b => cases b <;> rfl
    | _ => rfl

theorem value_evalAll (ps : List Plan) (scope : Scope) :
    (evalAll provider ps scope).value = ps.map fun p => (eval provider p false scope).value := by
  induction ps with
  | nil => rfl
  | cons p rest ih => simp [evalAll, ih]

theorem value_evalEntries (entries : List (Plan × Plan)) (scope : Scope) :
    (evalEntries provider entries scope).value =
      entries.map fun e => ((eval provider e.1 false scope).value,
        (eval provider e.2 false scope).value) := by
  induction entries with
  | nil => rfl
  | cons e rest ih => simp [evalEntries, ih]

theorem value_evalFields (fields : List (String × Plan)) (scope : Scope) :
    (evalFields provider fields scope).value =
      fields.map fun f => (f.1, (eval provider f.2 false scope).value) := by
  induction fields with
  | nil => rfl
  | cons f rest ih => simp [evalFields, ih]

theorem value_call (id : Int) (function : String) (args : List Plan) (overloads : List Overload)
    (everything : Bool) (scope : Scope) :
    (eval provider (call id function args overloads) everything scope).value =
      Value.called id function overloads
        (args.map fun p => (eval provider p false scope).value) := by
  simp only [eval, Run.value_bind, value_evalAll, Value.called, Value.strict]
  by_cases nonStrict : overloads.any Overload.nonStrict = true
  · simp [nonStrict]
  · simp only [nonStrict, Bool.false_eq_true, ↓reduceIte]
    cases Value.propagate (args.map fun p => (eval provider p false scope).value) <;> rfl

theorem value_list (id : Int) (elements : List Plan) (everything : Bool) (scope : Scope) :
    (eval provider (list id elements) everything scope).value =
      let values := elements.map fun p => (eval provider p false scope).value
      Value.strict values (.list values) := by
  simp [eval, value_evalAll]

theorem value_mapping (id : Int) (entries : List (Plan × Plan)) (everything : Bool)
    (scope : Scope) :
    (eval provider (mapping id entries) everything scope).value =
      let pairs := entries.map fun e => ((eval provider e.1 false scope).value,
        (eval provider e.2 false scope).value)
      Value.strict (pairs.flatMap fun p => [p.1, p.2]) ((Value.mapOf pairs).withExprId id) := by
  simp [eval, value_evalEntries]

theorem value_object (id : Int) (typeName : String) (fields : List (String × Plan))
    (everything : Bool) (scope : Scope) :
    (eval provider (object id typeName fields) everything scope).value =
      let values := fields.map fun f => (f.1, (eval provider f.2 false scope).value)
      Value.strict (values.map Prod.snd) ((provider.construct typeName values).withExprId id) := by
  simp only [eval, Run.value_bind, value_evalFields, Value.strict]
  cases Value.propagate ((fields.map fun f => (f.1, (eval provider f.2 false scope).value)).map
    Prod.snd) <;> rfl

theorem value_presence (id : Int) (operand : Plan) (field : String)
    (access : Option (String × FieldAccess)) (everything : Bool) (scope : Scope) :
    (eval provider (presence id operand field access) everything scope).value =
      (eval provider operand false scope).value.testField id field access := rfl

theorem value_membership (id : Int) (element : Plan) (items : List Value) (keys : List Key)
    (function : String) (overloads : List Overload) (everything : Bool) (scope : Scope) :
    (eval provider (membership id element items keys function overloads) everything scope).value =
      Value.memberOf id items keys function overloads
        (eval provider element false scope).value := by
  simp only [eval, Run.value_bind, apply_ite Run.value, Run.value_pure, Value.memberOf]
  cases Key.ofValue? (eval provider element false scope).value <;> rfl

theorem value_search (id : Int) (text : Plan) (source : String) (pattern : Regex.Pattern)
    (function : String) (overloads : List Overload) (everything : Bool) (scope : Scope) :
    (eval provider (search id text source pattern function overloads) everything scope).value =
      Value.searched id source pattern function overloads
        (eval provider text false scope).value := by
  simp only [eval, Run.value_bind, Value.searched]
  cases (eval provider text false scope).value <;> rfl

/-- The scope that the parts of a loop see. -/
def inside (scope : Scope) (accuVar iterVar : String) (accu x : Value) : Scope :=
  .frame (.frame scope accuVar accu) iterVar x

theorem value_loop (id : Int) (iterVar : String) (range : Plan) (accuVar : String)
    (init condition step result : Plan) (everything : Bool) (scope : Scope) :
    (eval provider (loop id iterVar range accuVar init condition step result) everything
        scope).value =
      let ranged := (eval provider range false scope).value
      if ranged.isFailure then ranged
      else match ranged.elements? with
        | none => Value.notIterable range.id ranged
        | some elements =>
          match (iterate everything
            (fun accu x => eval provider condition false (inside scope accuVar iterVar accu x))
            (fun accu x => eval provider step false (inside scope accuVar iterVar accu x))
            elements (eval provider init false scope).value).value with
          | .ok accu => (eval provider result false (.frame scope accuVar accu)).value
          | .error e => e := by
  simp only [eval, Run.value_bind, apply_ite Run.value, Run.value_pure]
  split
  · rfl
  · cases (eval provider range false scope).value.elements? with
    | none => rfl
    | some elements =>
      simp only [Run.value_bind, inside]
      split <;> simp_all

theorem value_observed (inner : Plan) (everything : Bool) (scope : Scope) :
    (eval provider (observed inner) everything scope).value =
      (eval provider inner false scope).value := rfl

end Plan

end ExprEngine
