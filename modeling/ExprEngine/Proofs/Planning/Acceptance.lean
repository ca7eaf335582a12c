import ExprEngine.Proofs.Planning.Simulation
import Mathlib.Data.List.Basic

/-!
# What can be planned

Planning fails where a node is malformed, and nowhere else: an operator with a target or with a
wrong number of operands, a function without an overload for its arguments, an entry of the wrong
kind, an object of an unknown type. Nodes that a resolved selection is made from are not looked at.
`fault?` finds the first such node in the order of planning without making a plan, so the error
does not depend on the options.
-/

namespace ExprEngine

namespace Entry

def isKeyed : Entry → Bool
  | field .. => false
  | keyed .. => true

end Entry

namespace Planning

variable {α β : Type}

def failure? (x : Planning α) : Option PlanError :=
  match outcome x with
  | .ok _ => none
  | .error e => some e

theorem failure?_bind {x : Planning α} {f : α → Planning β} {next : Option PlanError}
    (later : ∀ a, outcome x = .ok a → failure? (f a) = next) :
    failure? (x >>= f) = (failure? x).or next := by
  unfold failure? at later ⊢
  rw [outcome_bind]
  cases made : outcome x with
  | ok a => exact later a made
  | error e => rfl

theorem failure?_bind_of_none {x : Planning α} {f : α → Planning β}
    (later : ∀ a, outcome x = .ok a → failure? (f a) = none) :
    failure? (x >>= f) = failure? x := by
  rw [failure?_bind later, Option.or_none]

end Planning

namespace Planner

open Planning

/-! ### Nodes that are planned -/

mutual

/-- The nodes that planning comes to. -/
def visited (c : Planner) : Expr → List Expr
  | .literal id v => [.literal id v]
  | .ident id name => [.ident id name]
  | .select id operand field =>
    .select id operand field :: if c.isResolved id then [] else visited c operand
  | .presence id operand field => .presence id operand field :: visited c operand
  | .call id function args => .call id function args :: visitedAll c args
  | .member id target function args =>
    .member id target function args :: (visited c target ++ visitedAll c args)
  | .list id elements => .list id elements :: visitedAll c elements
  | .mapping id entries => .mapping id entries :: visitedIn c entries
  | .object id name entries => .object id name entries :: visitedIn c entries
  | .loop id iterVar range accuVar init condition step result =>
    .loop id iterVar range accuVar init condition step result ::
      (visited c range ++ (visited c init ++ (visited c condition ++ (visited c step ++
        visited c result))))
termination_by structural e => e

def visitedAll (c : Planner) : List Expr → List Expr
  | [] => []
  | e :: rest => visited c e ++ visitedAll c rest
termination_by structural es => es

def visitedIn (c : Planner) : List Entry → List Expr
  | [] => []
  | .field _ _ value :: rest => visited c value ++ visitedIn c rest
  | .keyed _ key value :: rest => visited c key ++ (visited c value ++ visitedIn c rest)
termination_by structural entries => entries

end

/-- What a node has to meet for itself, whatever its parts are. -/
def WellFormed (c : Planner) : Expr → Prop
  | .call _ function args =>
    if function = Operator.conditional then args.length = 3
    else if function = Operator.logicalAnd ∨ function = Operator.logicalOr
        ∨ function = Operator.index then args.length = 2
    else ∃ o ∈ c.registry.find function, o.arity = none ∨ o.arity = some args.length
  | .member _ _ function _ =>
    function ≠ Operator.conditional ∧ function ≠ Operator.logicalAnd ∧
      function ≠ Operator.logicalOr ∧ function ≠ Operator.index
  | .mapping _ entries => ∀ entry ∈ entries, entry.isKeyed = true
  | .object id name entries =>
    (∀ entry ∈ entries, entry.isKeyed = false) ∧
      ((∃ full, (c.checked.reference? id).bind Reference.name = some full) ∨
        ∃ full ∈ c.candidates name, (c.provider.findType full).isSome)
  | _ => True

/-- The ways in which a node can be malformed, each with the error for it. -/
inductive Violates (c : Planner) : Expr → PlanError → Prop where
  | operands {id function args count} (operator : operandCount? function = some count)
      (wrong : args.length ≠ count) :
      Violates c (.call id function args) (wrongOperands id function count)
  | target {id receiver function args count} (operator : operandCount? function = some count) :
      Violates c (.member id receiver function args) (wrongOperands id function count)
  | unknownFunction {id function args} (plain : operandCount? function = none)
      (unregistered : c.registry.find function = []) :
      Violates c (.call id function args) (.unknownFunction function id)
  | arityMismatch {id function args} (plain : operandCount? function = none)
      (registered : c.registry.find function ≠ [])
      (none : ∀ o ∈ c.registry.find function, o.takes args.length = false) :
      Violates c (.call id function args) (.arityMismatch function args.length id)
  | keyless {id entries entryId name value} (member : .field entryId name value ∈ entries) :
      Violates c (.mapping id entries)
        (.malformed entryId "map literal entry without a key expression")
  | unknownType {id name entries}
      (unresolved : (c.checked.reference? id).bind Reference.name = none)
      (none : ∀ full ∈ c.candidates name, c.provider.findType full = none) :
      Violates c (.object id name entries) (.unknownType name id)
  | computedKey {id name entries full entryId key value}
      (named : outcome (c.typeName id name) = .ok full)
      (member : .keyed entryId key value ∈ entries) :
      Violates c (.object id name entries)
        (.malformed entryId ("object construction of '" ++ full ++ "' with a computed key"))

/-! ### The first fault -/

def callFault? (c : Planner) (id : Int) (function : String) (count : Nat) : Option PlanError :=
  if (c.registry.find function).isEmpty then some (.unknownFunction function id)
  else if (c.reachable function count).isEmpty then some (.arityMismatch function count id)
  else none

mutual

/-- The error that planning ends in, found without planning. -/
def fault? (c : Planner) : Expr → Option PlanError
  | .literal .. | .ident .. => none
  | .select id operand _ => if c.isResolved id then none else fault? c operand
  | .presence _ operand _ => fault? c operand
  | .call id function args =>
    match operandCount? function with
    | some count =>
      if args.length ≠ count then some (wrongOperands id function count) else faultAll? c args
    | none => (faultAll? c args).or (c.callFault? id function args.length)
  | .member id target function args =>
    match operandCount? function with
    | some count => some (wrongOperands id function count)
    | none => (fault? c target).or (faultAll? c args)
  | .list _ elements => faultAll? c elements
  | .mapping _ entries => faultKeyed? c entries
  | .object id name entries =>
    match outcome (c.typeName id name) with
    | .error e => some e
    | .ok full => faultFields? c full entries
  | .loop _ _ range _ init condition step result =>
    (fault? c range).or ((fault? c init).or ((fault? c condition).or ((fault? c step).or
      (fault? c result))))
termination_by structural e => e

def faultAll? (c : Planner) : List Expr → Option PlanError
  | [] => none
  | e :: rest => (fault? c e).or (faultAll? c rest)
termination_by structural es => es

def faultKeyed? (c : Planner) : List Entry → Option PlanError
  | [] => none
  | .field id _ _ :: _ => some (.malformed id "map literal entry without a key expression")
  | .keyed _ key value :: rest => (fault? c key).or ((fault? c value).or (faultKeyed? c rest))
termination_by structural entries => entries

def faultFields? (c : Planner) (typeName : String) : List Entry → Option PlanError
  | [] => none
  | .keyed id _ _ :: _ =>
    some (.malformed id ("object construction of '" ++ typeName ++ "' with a computed key"))
  | .field _ _ value :: rest => (fault? c value).or (faultFields? c typeName rest)
termination_by structural entries => entries

end

variable (c : Planner)

theorem exists_operatorPlan (id : Int) {function : String} {count : Nat} {ps : List Plan}
    (operator : operandCount? function = some count) (enough : ps.length = count) :
    ∃ p, operatorPlan? id function ps = some p := by
  unfold operandCount? at operator
  split at operator
  · next conditional =>
    obtain rfl := Option.some.inj operator
    obtain ⟨g, t, f, rfl⟩ := List.length_eq_three.mp enough
    exact ⟨_, if_pos conditional⟩
  · split at operator
    · next binary =>
      obtain rfl := Option.some.inj operator
      obtain ⟨a, b, rfl⟩ := List.length_eq_two.mp enough
      unfold operatorPlan?
      rcases binary with rfl | rfl | rfl <;> exact ⟨_, rfl⟩
    · cases operator

section

variable [HostObjects]

theorem failure?_finish (p : Plan) : failure? (c.finish p) = none := by
  rw [failure?, outcome_finish]

theorem failure?_callPlan (id : Int) (function : String) (args : List Plan) :
    failure? (c.callPlan id function false args) = c.callFault? id function args.length := by
  rw [failure?, outcome_callPlan]
  unfold callFault?
  simp only [Bool.not_false, Bool.true_and]
  cases (c.registry.find function).isEmpty <;>
    cases (c.reachable function args.length).isEmpty <;> rfl

/-- A call on a target may be left to the target. -/
theorem failure?_callPlan_onTarget (id : Int) (function : String) (args : List Plan) :
    failure? (c.callPlan id function true args) = none := by
  rw [failure?, outcome_callPlan]
  rfl

mutual

/-- Planning ends in the first fault, whatever the options are. -/
theorem failure?_planExpr (e : Expr) (locals : List String) :
    failure? (c.planExpr e locals) = c.fault? e := by
  match e with
  | .literal id v | .ident id name =>
    rw [planExpr]
    exact c.failure?_finish _
  | .select id operand field =>
    rw [planExpr, fault?]
    split
    · exact c.failure?_finish _
    · rw [failure?_bind_of_none fun _ _ => c.failure?_finish _, failure?_planExpr operand locals]
  | .presence id operand field =>
    rw [planExpr, fault?, failure?_bind_of_none fun _ _ => c.failure?_finish _,
      failure?_planExpr operand locals]
  | .call id function args =>
    rw [planExpr, fault?]
    cases operator : operandCount? function with
    | some count =>
      by_cases enough : args.length = count
      · simp only [enough, ne_eq, not_true_eq_false, ↓reduceIte]
        rw [failure?_bind_of_none fun ps planned => ?_, failure?_planAll args locals]
        have length := length_of_plannedAll (plannedAll_of_outcome c args locals planned)
        obtain ⟨p, made⟩ := exists_operatorPlan id operator (length.trans enough)
        rw [made]
        exact c.failure?_finish p
      · simp only [ne_eq, enough, not_false_eq_true, ↓reduceIte]
        rfl
    | none =>
      simp only
      rw [failure?_bind fun ps planned => ?_, failure?_planAll args locals]
      rw [failure?_callPlan, length_of_plannedAll (plannedAll_of_outcome c args locals planned)]
  | .member id target function args =>
    rw [planExpr, fault?]
    cases operator : operandCount? function with
    | some count => rfl
    | none =>
      simp only
      rw [failure?_bind fun _ _ => ?_, failure?_planExpr target locals]
      rw [failure?_bind_of_none fun _ _ => c.failure?_callPlan_onTarget .., failure?_planAll]
  | .list id elements =>
    rw [planExpr, fault?, failure?_bind_of_none fun _ _ => c.failure?_finish _,
      failure?_planAll elements locals]
  | .mapping id entries =>
    rw [planExpr, fault?, failure?_bind_of_none fun _ _ => c.failure?_finish _,
      failure?_planKeyed entries locals]
  | .object id name entries =>
    rw [planExpr, fault?]
    cases named : outcome (c.typeName id name) with
    | error e =>
      rw [failure?, outcome_bind, named]
      rfl
    | ok full =>
      have later : ∀ other, outcome (c.typeName id name) = .ok other →
          failure? (c.planFields other entries locals >>= fun fields =>
            c.finish (.object id other fields)) = c.faultFields? full entries := by
        intro other same
        obtain rfl := Except.ok.inj (named.symm.trans same)
        rw [failure?_bind_of_none fun _ _ => c.failure?_finish _,
          failure?_planFields full entries locals]
      rw [failure?_bind later, failure?, named]
      rfl
  | .loop id iterVar range accuVar init condition step result =>
    rw [planExpr, fault?, failure?_bind fun _ _ => ?_, failure?_planExpr range locals]
    rw [failure?_bind fun _ _ => ?_, failure?_planExpr init locals]
    rw [failure?_bind fun _ _ => ?_, failure?_planExpr condition _]
    rw [failure?_bind fun _ _ => ?_, failure?_planExpr step _]
    rw [failure?_bind_of_none fun _ _ => c.failure?_finish _, failure?_planExpr result _]

theorem failure?_planAll (es : List Expr) (locals : List String) :
    failure? (c.planAll es locals) = c.faultAll? es := by
  match es with
  | [] => rfl
  | e :: rest =>
    rw [planAll, faultAll?, failure?_bind fun _ _ => ?_, failure?_planExpr e locals]
    rw [failure?_bind_of_none fun _ _ => rfl, failure?_planAll rest locals]

theorem failure?_planKeyed (entries : List Entry) (locals : List String) :
    failure? (c.planKeyed entries locals) = c.faultKeyed? entries := by
  match entries with
  | [] => rfl
  | .field id name value :: rest => rfl
  | .keyed id key value :: rest =>
    rw [planKeyed, faultKeyed?, failure?_bind fun _ _ => ?_, failure?_planExpr key locals]
    rw [failure?_bind fun _ _ => ?_, failure?_planExpr value locals]
    rw [failure?_bind_of_none fun _ _ => rfl, failure?_planKeyed rest locals]

theorem failure?_planFields (typeName : String) (entries : List Entry) (locals : List String) :
    failure? (c.planFields typeName entries locals) = c.faultFields? typeName entries := by
  match entries with
  | [] => rfl
  | .keyed id key value :: rest => rfl
  | .field id name value :: rest =>
    rw [planFields, faultFields?, failure?_bind fun _ _ => ?_, failure?_planExpr value locals]
    rw [failure?_bind_of_none fun _ _ => rfl, failure?_planFields typeName rest locals]

end

end

/-! ### Faults and nodes -/

variable {c : Planner}

theorem typeName_cases (c : Planner) (id : Int) (name : String) :
    (∃ full, outcome (c.typeName id name) = .ok full ∧
      ((∃ full, (c.checked.reference? id).bind Reference.name = some full) ∨
        ∃ full ∈ c.candidates name, (c.provider.findType full).isSome)) ∨
    outcome (c.typeName id name) = .error (.unknownType name id) ∧
      (c.checked.reference? id).bind Reference.name = none ∧
        ∀ full ∈ c.candidates name, c.provider.findType full = none := by
  unfold typeName
  cases resolved : (c.checked.reference? id).bind Reference.name with
  | some full => exact .inl ⟨full, rfl, .inl ⟨full, rfl⟩⟩
  | none =>
    cases found : (c.candidates name).find? fun full => (c.provider.findType full).isSome with
    | some full =>
      have known : (c.provider.findType full).isSome = true := by
        simpa using List.find?_some found
      exact .inl ⟨full, rfl, .inr ⟨full, List.mem_of_find?_eq_some found, known⟩⟩
    | none =>
      refine .inr ⟨rfl, rfl, fun full member => ?_⟩
      simpa using List.find?_eq_none.mp found full member

theorem callFault?_cases (c : Planner) (id : Int) (function : String) (count : Nat) :
    (c.registry.find function = [] ∧
      c.callFault? id function count = some (.unknownFunction function id)) ∨
    (c.registry.find function ≠ [] ∧ (∀ o ∈ c.registry.find function, o.takes count = false) ∧
      c.callFault? id function count = some (.arityMismatch function count id)) ∨
    (∃ o ∈ c.registry.find function, o.takes count = true) ∧
      c.callFault? id function count = none := by
  by_cases unregistered : c.registry.find function = []
  · exact .inl ⟨unregistered, by simp [callFault?, unregistered]⟩
  · by_cases fits : ∃ o ∈ c.registry.find function, o.takes count = true
    · refine .inr (.inr ⟨fits, ?_⟩)
      simpa [callFault?, reachable, unregistered] using fits
    · have none : ∀ o ∈ c.registry.find function, o.takes count = false := by simpa using fits
      refine .inr (.inl ⟨unregistered, none, ?_⟩)
      simpa [callFault?, reachable, unregistered] using none

theorem takes_iff (o : Overload) (count : Nat) :
    o.takes count = true ↔ o.arity = none ∨ o.arity = some count := by
  unfold Overload.takes
  cases o.arity <;> simp

theorem operandCount?_eq_none_iff {function : String} :
    operandCount? function = none ↔ function ≠ Operator.conditional ∧
      function ≠ Operator.logicalAnd ∧ function ≠ Operator.logicalOr ∧
        function ≠ Operator.index := by
  unfold operandCount?
  split
  · next conditional => simp [conditional]
  · next others =>
    split
    · next binary => rcases binary with rfl | rfl | rfl <;> simp
    · next plain => simpa [others] using plain

section Calls

variable {id : Int} {function : String} {args : List Expr}

theorem wellFormed_operator_iff {count : Nat} (operator : operandCount? function = some count) :
    c.WellFormed (.call id function args) ↔ args.length = count := by
  unfold operandCount? at operator
  unfold WellFormed
  dsimp only
  split at operator
  · next conditional => rw [if_pos conditional, Option.some.inj operator]
  · next others =>
    split at operator
    · next binary => rw [if_neg others, if_pos binary, Option.some.inj operator]
    · cases operator

theorem wellFormed_call_iff (plain : operandCount? function = none) :
    c.WellFormed (.call id function args) ↔
      ∃ o ∈ c.registry.find function, o.takes args.length = true := by
  obtain ⟨notConditional, notAnd, notOr, notIndex⟩ := operandCount?_eq_none_iff.mp plain
  simp only [WellFormed, notConditional, notAnd, notOr, notIndex, or_self, ↓reduceIte, takes_iff]

end Calls

theorem Violates.not_wellFormed {node : Expr} {e : PlanError} (violates : c.Violates node e) :
    ¬ c.WellFormed node := by
  intro wellFormed
  cases violates with
  | operands operator wrong => exact wrong ((wellFormed_operator_iff operator).mp wellFormed)
  | target operator =>
    rw [operandCount?_eq_none_iff.mpr wellFormed] at operator
    cases operator
  | unknownFunction plain unregistered =>
    obtain ⟨o, member, -⟩ := (wellFormed_call_iff plain).mp wellFormed
    rw [unregistered] at member
    cases member
  | arityMismatch plain _ none =>
    obtain ⟨o, member, fits⟩ := (wellFormed_call_iff plain).mp wellFormed
    rw [none o member] at fits
    cases fits
  | keyless member => cases wellFormed _ member
  | unknownType unresolved none =>
    rcases wellFormed.2 with ⟨full, resolved⟩ | ⟨full, member, known⟩
    · rw [unresolved] at resolved
      cases resolved
    · rw [none full member] at known
      cases known
  | computedKey _ member => cases wellFormed.1 _ member

def Blames (c : Planner) (nodes : List Expr) (e : PlanError) : Prop :=
  ∃ n ∈ nodes, ¬ c.WellFormed n ∧ c.Violates n e

/-- A fault is the error of one of the nodes; without one, all of them are well-formed. -/
def Judges (c : Planner) (nodes : List Expr) : Option PlanError → Prop
  | none => ∀ n ∈ nodes, c.WellFormed n
  | some e => c.Blames nodes e

section Judges

variable {node : Expr} {nodes others : List Expr} {a b : Option PlanError}

theorem Violates.judged {e : PlanError} (violates : c.Violates node e) (member : node ∈ nodes) :
    c.Judges nodes (some e) :=
  ⟨node, member, violates.not_wellFormed, violates⟩

theorem judges_single (wellFormed : c.WellFormed node) : c.Judges [node] none :=
  List.forall_mem_singleton.mpr wellFormed

theorem Blames.mono {e : PlanError} (blames : c.Blames nodes e) (subset : nodes ⊆ others) :
    c.Blames others e := by
  obtain ⟨n, member, violates⟩ := blames
  exact ⟨n, subset member, violates⟩

theorem Judges.or (first : c.Judges nodes a) (second : c.Judges others b) :
    c.Judges (nodes ++ others) (a.or b) := by
  cases a with
  | some e => exact Blames.mono first (List.subset_append_left nodes others)
  | none => cases b with
    | some e => exact Blames.mono second (List.subset_append_right nodes others)
    | none => exact List.forall_mem_append.mpr ⟨first, second⟩

theorem Judges.cons (wellFormed : c.WellFormed node) (parts : c.Judges nodes a) :
    c.Judges (node :: nodes) a :=
  (judges_single wellFormed).or parts

theorem Judges.rotate (judges : c.Judges (nodes ++ [node]) a) : c.Judges (node :: nodes) a := by
  have same : ∀ n, n ∈ nodes ++ [node] ↔ n ∈ node :: nodes :=
    fun _ => (List.perm_append_singleton node nodes).mem_iff
  cases a with
  | some e => exact Blames.mono judges fun n => (same n).mp
  | none => exact fun n member => judges n ((same n).mpr member)

end Judges

theorem judges_callFault (id : Int) {function : String} (args : List Expr)
    (plain : operandCount? function = none) :
    c.Judges [.call id function args] (c.callFault? id function args.length) := by
  rcases c.callFault?_cases id function args.length with ⟨unregistered, is⟩ |
    ⟨registered, none, is⟩ | ⟨fits, is⟩
  · rw [is]
    exact (Violates.unknownFunction plain unregistered).judged List.mem_cons_self
  · rw [is]
    exact (Violates.arityMismatch plain registered none).judged List.mem_cons_self
  · rw [is]
    exact judges_single ((wellFormed_call_iff plain).mpr fits)

mutual

theorem judges_fault (node : Expr) : c.Judges (c.visited node) (c.fault? node) := by
  match node with
  | .literal id v | .ident id name => exact judges_single trivial
  | .select id operand field =>
    rw [visited, fault?]
    refine .cons trivial ?_
    split
    · exact List.forall_mem_nil _
    · exact judges_fault operand
  | .presence id operand field => exact .cons trivial (judges_fault operand)
  | .call id function args =>
    rw [visited, fault?]
    cases operator : operandCount? function with
    | some count =>
      dsimp only
      split
      · next wrong => exact (Violates.operands operator wrong).judged List.mem_cons_self
      · next enough =>
        exact .cons ((wellFormed_operator_iff operator).mpr (not_not.mp enough))
          (judges_faultAll args)
    | none =>
      -- Only after the arguments have been planned is an overload looked for.
      exact ((judges_faultAll args).or (judges_callFault id args operator)).rotate
  | .member id target function args =>
    rw [visited, fault?]
    cases operator : operandCount? function with
    | some count => exact (Violates.target operator).judged List.mem_cons_self
    | none =>
      exact .cons (operandCount?_eq_none_iff.mp operator)
        ((judges_fault target).or (judges_faultAll args))
  | .list id elements => exact .cons trivial (judges_faultAll elements)
  | .mapping id entries =>
    exact (judges_faultKeyed id [] entries (List.forall_mem_nil _)).rotate
  | .object id name entries =>
    rw [visited, fault?]
    rcases c.typeName_cases id name with ⟨full, named, known⟩ | ⟨failed, unresolved, none⟩
    · rw [named]
      exact (judges_faultFields named known [] entries (List.forall_mem_nil _)).rotate
    · rw [failed]
      exact (Violates.unknownType unresolved none).judged List.mem_cons_self
  | .loop id iterVar range accuVar init condition step result =>
    refine .cons trivial ((judges_fault range).or ((judges_fault init).or ?_))
    exact (judges_fault condition).or ((judges_fault step).or (judges_fault result))

theorem judges_faultAll (es : List Expr) : c.Judges (c.visitedAll es) (c.faultAll? es) := by
  match es with
  | [] => exact List.forall_mem_nil _
  | e :: rest => exact (judges_fault e).or (judges_faultAll rest)

/-- The entries of a map, with what has been planned of them: the map is judged after the last. -/
theorem judges_faultKeyed (id : Int) (planned entries : List Entry)
    (keyed : ∀ entry ∈ planned, entry.isKeyed = true) :
    c.Judges (c.visitedIn entries ++ [.mapping id (planned ++ entries)])
      (c.faultKeyed? entries) := by
  match entries with
  | [] =>
    rw [List.append_nil]
    exact judges_single keyed
  | .field entryId name value :: rest =>
    exact (Violates.keyless (List.mem_append_right planned List.mem_cons_self)).judged
      (List.mem_append_right _ List.mem_cons_self)
  | .keyed entryId key value :: rest =>
    have keyed : ∀ entry ∈ planned ++ [.keyed entryId key value], entry.isKeyed = true :=
      List.forall_mem_append.mpr ⟨keyed, List.forall_mem_singleton.mpr rfl⟩
    have later := judges_faultKeyed id (planned ++ [.keyed entryId key value]) rest keyed
    rw [List.append_assoc, List.singleton_append] at later
    rw [visitedIn, faultKeyed?, List.append_assoc, List.append_assoc]
    exact (judges_fault key).or ((judges_fault value).or later)

theorem judges_faultFields {id : Int} {name full : String}
    (named : outcome (c.typeName id name) = .ok full)
    (known : (∃ full, (c.checked.reference? id).bind Reference.name = some full) ∨
      ∃ full ∈ c.candidates name, (c.provider.findType full).isSome)
    (planned entries : List Entry) (fields : ∀ entry ∈ planned, entry.isKeyed = false) :
    c.Judges (c.visitedIn entries ++ [.object id name (planned ++ entries)])
      (c.faultFields? full entries) := by
  match entries with
  | [] =>
    rw [List.append_nil]
    exact judges_single ⟨fields, known⟩
  | .keyed entryId key value :: rest =>
    exact (Violates.computedKey named (List.mem_append_right planned List.mem_cons_self)).judged
      (List.mem_append_right _ List.mem_cons_self)
  | .field entryId field value :: rest =>
    have fields : ∀ entry ∈ planned ++ [.field entryId field value], entry.isKeyed = false :=
      List.forall_mem_append.mpr ⟨fields, List.forall_mem_singleton.mpr rfl⟩
    have later := judges_faultFields named known (planned ++ [.field entryId field value]) rest
      fields
    rw [List.append_assoc, List.singleton_append] at later
    rw [visitedIn, faultFields?, List.append_assoc]
    exact (judges_fault value).or later

end

end Planner

namespace Environment

variable [HostObjects]

open Planning

end Environment

end ExprEngine
