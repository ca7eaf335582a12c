import ExprEngine.Plan.Evaluation

/-!
# Demands on plans

A demand asks something of the overloads of calls, of the names of variables, and of what is wrapped
for exhaustive evaluation. A plan is made on demand if all of its parts are.
-/

namespace ExprEngine.Plan

structure Demand where
  /-- What a call may reach. -/
  calls : List Overload → Prop
  /-- The names that a variable, of a loop or of the scope around, may have inside loops that bind
  some names. -/
  names : List String → Bool → List String → Prop
  /-- What may be wrapped for exhaustive evaluation. -/
  wraps : Plan → Prop

mutual

/-- The demand is met in the plan, inside loops that bind `bound`. -/
def Made (k : Demand) : Plan → List String → Prop
  | const .., _ => True
  | attr _ a, bound => MadeAttribute k a bound
  | both _ l r, bound | either _ l r, bound => Made k l bound ∧ Made k r bound
  | conditional _ g t f, bound => Made k g bound ∧ Made k t bound ∧ Made k f bound
  | call _ _ args overloads, bound => k.calls overloads ∧ MadeAll k args bound
  | list _ elements, bound => MadeAll k elements bound
  | mapping _ entries, bound => MadeKeyed k entries bound
  | object _ _ fields, bound => MadeFields k fields bound
  | presence _ operand _ _, bound => Made k operand bound
  | loop _ iterVar range accuVar init condition step result, bound =>
    Made k range bound ∧ Made k init bound ∧ Made k condition (iterVar :: accuVar :: bound) ∧
      Made k step (iterVar :: accuVar :: bound) ∧ Made k result (accuVar :: bound)
  | membership _ element _ _ _ overloads, bound => k.calls overloads ∧ Made k element bound
  | search _ text _ _ _ overloads, bound => k.calls overloads ∧ Made k text bound
  | exhaustive inner, bound => k.wraps inner ∧ Made k inner bound
  | observed inner, bound => Made k inner bound
termination_by structural p => p

def MadeAll (k : Demand) : List Plan → List String → Prop
  | [], _ => True
  | p :: rest, bound => Made k p bound ∧ MadeAll k rest bound
termination_by structural ps => ps

def MadeKeyed (k : Demand) : List (Plan × Plan) → List String → Prop
  | [], _ => True
  | (key, value) :: rest, bound => Made k key bound ∧ Made k value bound ∧ MadeKeyed k rest bound
termination_by structural entries => entries

def MadeFields (k : Demand) : List (String × Plan) → List String → Prop
  | [], _ => True
  | (_, value) :: rest, bound => Made k value bound ∧ MadeFields k rest bound
termination_by structural fields => fields

def MadeAttribute (k : Demand) : Attribute → List String → Prop
  | .absolute _ isLocal names qs, bound => k.names bound isLocal names ∧ MadeQualifiers k qs bound
  | .ambiguous _ names qs, bound => k.names bound false names ∧ MadeQualifiers k qs bound
  | .relative _ operand qs, bound => Made k operand bound ∧ MadeQualifiers k qs bound
  | .conditional _ g t f, bound =>
    Made k g bound ∧ MadeAttribute k t bound ∧ MadeAttribute k f bound
termination_by structural a => a

def MadeQualifiers (k : Demand) : List Qualifier → List String → Prop
  | [], _ => True
  | .field .. :: rest, bound | .constant .. :: rest, bound => MadeQualifiers k rest bound
  | .computed _ key :: rest, bound => Made k key bound ∧ MadeQualifiers k rest bound
termination_by structural qs => qs

end

structure Demand.Always (k : Demand) : Prop where
  calls : ∀ overloads, k.calls overloads
  names : ∀ bound isLocal names, k.names bound isLocal names
  wraps : ∀ p, k.wraps p

variable {k : Demand}

mutual

theorem made_of_always (always : k.Always) (p : Plan)
    (bound : List String) : p.Made k bound := by
  match p with
  | const .. => exact trivial
  | attr _ a => exact madeAttribute_of_always always a bound
  | both _ l r | either _ l r =>
    exact ⟨made_of_always always l bound, made_of_always always r bound⟩
  | conditional _ g t f =>
    exact ⟨made_of_always always g bound, made_of_always always t bound,
      made_of_always always f bound⟩
  | call _ _ args overloads => exact ⟨always.calls overloads, madeAll_of_always always args bound⟩
  | list _ elements => exact madeAll_of_always always elements bound
  | mapping _ entries => exact madeKeyed_of_always always entries bound
  | object _ _ fields => exact madeFields_of_always always fields bound
  | presence _ operand .. => exact made_of_always always operand bound
  | loop _ iterVar range accuVar init condition step result =>
    exact ⟨made_of_always always range bound, made_of_always always init bound,
      made_of_always always condition _, made_of_always always step _,
      made_of_always always result _⟩
  | membership _ operand _ _ _ overloads | search _ operand _ _ _ overloads =>
    exact ⟨always.calls overloads, made_of_always always operand bound⟩
  | exhaustive inner => exact ⟨always.wraps inner, made_of_always always inner bound⟩
  | observed inner => exact made_of_always always inner bound

theorem madeAll_of_always (always : k.Always) (ps : List Plan) (bound : List String) :
    MadeAll k ps bound := by
  match ps with
  | [] => exact trivial
  | p :: rest => exact ⟨made_of_always always p bound, madeAll_of_always always rest bound⟩

theorem madeKeyed_of_always (always : k.Always) (entries : List (Plan × Plan))
    (bound : List String) : MadeKeyed k entries bound := by
  match entries with
  | [] => exact trivial
  | (key, value) :: rest =>
    exact ⟨made_of_always always key bound, made_of_always always value bound,
      madeKeyed_of_always always rest bound⟩

theorem madeFields_of_always (always : k.Always) (fields : List (String × Plan))
    (bound : List String) : MadeFields k fields bound := by
  match fields with
  | [] => exact trivial
  | (_, value) :: rest =>
    exact ⟨made_of_always always value bound, madeFields_of_always always rest bound⟩

theorem madeAttribute_of_always (always : k.Always) (a : Attribute) (bound : List String) :
    MadeAttribute k a bound := by
  match a with
  | .absolute _ _ ns qs | .ambiguous _ ns qs =>
    exact ⟨always.names bound _ ns, madeQualifiers_of_always always qs bound⟩
  | .relative _ operand qs =>
    exact ⟨made_of_always always operand bound, madeQualifiers_of_always always qs bound⟩
  | .conditional _ g t f =>
    exact ⟨made_of_always always g bound, madeAttribute_of_always always t bound,
      madeAttribute_of_always always f bound⟩

theorem madeQualifiers_of_always (always : k.Always) (qs : List Qualifier) (bound : List String) :
    MadeQualifiers k qs bound := by
  match qs with
  | [] => exact trivial
  | .field .. :: rest | .constant .. :: rest => exact madeQualifiers_of_always always rest bound
  | .computed _ key :: rest =>
    exact ⟨made_of_always always key bound, madeQualifiers_of_always always rest bound⟩

end

end ExprEngine.Plan
