import ExprEngine.Expr.Basic

/-!
# Conditions on all nodes

A condition on an expression inside loops that bind some variables, asked of every node of it.
-/

namespace ExprEngine.Expr

mutual

/-- Every node of the expression meets the condition, with the variables bound around it. -/
def Everywhere (P : Expr → List String → Prop) : Expr → List String → Prop
  | literal id v, locals => P (literal id v) locals
  | ident id name, locals => P (ident id name) locals
  | select id operand field, locals =>
    P (select id operand field) locals ∧ Everywhere P operand locals
  | presence id operand field, locals =>
    P (presence id operand field) locals ∧ Everywhere P operand locals
  | call id function args, locals =>
    P (call id function args) locals ∧ EverywhereAll P args locals
  | member id target function args, locals =>
    P (member id target function args) locals ∧ Everywhere P target locals ∧
      EverywhereAll P args locals
  | list id elements, locals => P (list id elements) locals ∧ EverywhereAll P elements locals
  | mapping id entries, locals => P (mapping id entries) locals ∧ EverywhereIn P entries locals
  | object id name entries, locals =>
    P (object id name entries) locals ∧ EverywhereIn P entries locals
  | loop id iterVar range accuVar init condition step result, locals =>
    P (loop id iterVar range accuVar init condition step result) locals ∧
      Everywhere P range locals ∧ Everywhere P init locals ∧
      Everywhere P condition (iterVar :: accuVar :: locals) ∧
      Everywhere P step (iterVar :: accuVar :: locals) ∧
      Everywhere P result (accuVar :: locals)
termination_by structural e => e

def EverywhereAll (P : Expr → List String → Prop) : List Expr → List String → Prop
  | [], _ => True
  | e :: rest, locals => Everywhere P e locals ∧ EverywhereAll P rest locals
termination_by structural es => es

def EverywhereIn (P : Expr → List String → Prop) : List Entry → List String → Prop
  | [], _ => True
  | .field _ _ value :: rest, locals => Everywhere P value locals ∧ EverywhereIn P rest locals
  | .keyed _ key value :: rest, locals =>
    Everywhere P key locals ∧ Everywhere P value locals ∧ EverywhereIn P rest locals
termination_by structural entries => entries

end

theorem Everywhere.here {P : Expr → List String → Prop} {e : Expr} {locals : List String}
    (h : e.Everywhere P locals) : P e locals := by
  cases e <;> first | exact h | exact h.1

mutual

theorem everywhere_of_forall {P : Expr → List String → Prop} (always : ∀ e locals, P e locals)
    (e : Expr) (locals : List String) : e.Everywhere P locals := by
  match e with
  | literal .. | ident .. => exact always _ _
  | select _ operand _ | presence _ operand _ =>
    exact ⟨always _ _, everywhere_of_forall always operand locals⟩
  | call _ _ args | list _ args => exact ⟨always _ _, everywhereAll_of_forall always args locals⟩
  | member _ target _ args =>
    exact ⟨always _ _, everywhere_of_forall always target locals,
      everywhereAll_of_forall always args locals⟩
  | mapping _ entries | object _ _ entries =>
    exact ⟨always _ _, everywhereIn_of_forall always entries locals⟩
  | loop _ _ range _ init condition step result =>
    exact ⟨always _ _, everywhere_of_forall always range locals,
      everywhere_of_forall always init locals, everywhere_of_forall always condition _,
      everywhere_of_forall always step _, everywhere_of_forall always result _⟩

theorem everywhereAll_of_forall {P : Expr → List String → Prop} (always : ∀ e locals, P e locals)
    (es : List Expr) (locals : List String) : EverywhereAll P es locals := by
  match es with
  | [] => exact trivial
  | e :: rest =>
    exact ⟨everywhere_of_forall always e locals, everywhereAll_of_forall always rest locals⟩

theorem everywhereIn_of_forall {P : Expr → List String → Prop} (always : ∀ e locals, P e locals)
    (entries : List Entry) (locals : List String) : EverywhereIn P entries locals := by
  match entries with
  | [] => exact trivial
  | .field _ _ value :: rest =>
    exact ⟨everywhere_of_forall always value locals, everywhereIn_of_forall always rest locals⟩
  | .keyed _ key value :: rest =>
    exact ⟨everywhere_of_forall always key locals, everywhere_of_forall always value locals,
      everywhereIn_of_forall always rest locals⟩

end

end ExprEngine.Expr
