import ExprEngine.Proofs.Partial.Iteration
import ExprEngine.Proofs.Planning.Interchange

/-!
# Runs within a log

A log may hold whole runs of some parts, with nothing but known events between them. `Spaced` says
so of a log, and `Run.Traced` of a run, with its value. Loops that go on until their accumulator is
decided hold the runs of their steps up to there.
-/

namespace ExprEngine

/-- The log is the runs, one after the other, with own events before, between and after them. -/
inductive Spaced (own : Event → Prop) : List Event → List (List Event) → Prop where
  | nil : Spaced own [] []
  | event {e log runs} (isOwn : own e) (rest : Spaced own log runs) : Spaced own (e :: log) runs
  | run {log runs} (first : List Event) (rest : Spaced own log runs) :
      Spaced own (first ++ log) (first :: runs)

namespace Spaced

variable {own : Event → Prop} {log more : List Event} {runs others : List (List Event)}

theorem append (before : Spaced own log runs) (after : Spaced own more others) :
    Spaced own (log ++ more) (runs ++ others) := by
  induction before with
  | nil => exact after
  | event isOwn _ ih => exact .event isOwn ih
  | run first _ ih =>
    rw [List.append_assoc]
    exact .run first ih

theorem of_forall (all : ∀ e ∈ log, own e) : Spaced own log [] := by
  induction log with
  | nil => exact .nil
  | cons e rest ih =>
    have others := ih fun f member => all f (List.mem_cons_of_mem e member)
    exact .event (all e List.mem_cons_self) others

end Spaced

structure OwnNode (own : Event → Prop) (id : Int) : Prop where
  reached : own (.reached id)
  recorded : ∀ v, own (.recorded id v)

/-- The value of the run, and the whole runs in its log. -/
structure Run.Traced (own : Event → Prop) {α : Type} (r : Run α) (a : α)
    (runs : List (List Event)) : Prop where
  value : r.value = a
  log : Spaced own r.log runs

section Steps

variable {own : Event → Prop} {α β : Type} {runs more : List (List Event)}

open Run

theorem traced_pure (a : α) : (pure a : Run α).Traced own a [] := ⟨rfl, .nil⟩

theorem traced_emit {e : Event} (isOwn : own e) : (emit e).Traced own () [] :=
  ⟨rfl, .event isOwn .nil⟩

theorem Run.Traced.bind {r : Run α} {f : α → Run β} {a : α} {b : β} (first : r.Traced own a runs)
    (next : (f a).Traced own b more) : (r >>= f).Traced own b (runs ++ more) := by
  obtain ⟨rfl, log⟩ := first
  exact ⟨next.value, log.append next.log⟩

theorem Run.Traced.quietly {r : Run α} {f : α → Run β} {a : α} {b : β}
    (first : r.Traced own a runs) (next : (f a).Traced own b []) : (r >>= f).Traced own b runs := by
  have both := first.bind next
  rwa [List.append_nil] at both

theorem traced_whole (r : Run α) : r.Traced own r.value [r.log] := by
  have whole := Spaced.run r.log (@Spaced.nil own)
  rw [List.append_nil] at whole
  exact ⟨rfl, whole⟩

theorem traced_record {id : Int} {v : Value} (recorded : own (.recorded id v)) (s : Scope) :
    (s.record id v).Traced own () [] := by
  unfold Scope.record
  split
  · exact traced_emit recorded
  · exact traced_pure ()

theorem traced_invoke {o : Overload} {args : List Value} (invoked : own (.invoked o args)) :
    (o.invoke args).Traced own (o.result args) [] := by
  unfold Overload.invoke
  split
  · exact (traced_emit invoked).bind (traced_pure _)
  · exact traced_pure _

end Steps

/-! ### Iteration -/

/-- The elements up to the first one that decides, or all of them. -/
def untilDecided (decides : Value → Bool) (elements : List Value) : List Value :=
  elements.take (elements.findIdx decides + 1)

theorem untilDecided_cons (decides : Value → Bool) (x : Value) (rest : List Value) :
    untilDecided decides (x :: rest) =
      x :: if decides x then [] else untilDecided decides rest := by
  unfold untilDecided
  rw [List.findIdx_cons, List.take_succ_cons]
  cases decides x <;> rfl

section Iteration

variable {own : Event → Prop} {condition step : Value → Value → Run Value} {short : Bool}

theorem traced_iterate_decided
    (asks : ∀ x, (condition (.bool short) x).Traced own (.bool false) []) (elements : List Value) :
    (iterate false condition step elements (.bool short)).Traced own (.ok (.bool short)) [] := by
  cases elements with
  | nil => exact traced_pure _
  | cons x rest =>
    rw [iterate]
    exact (asks x).bind (traced_pure _)

/-- A loop that goes on until its accumulator is decided takes its steps for the elements up to the
first one that decides. -/
theorem traced_iterate {decides : Value → Bool} {run : Value → List Event} {elements : List Value}
    (asks : ∀ b x, (condition (.bool b) x).Traced own (.bool (b != short)) [])
    (steps : ∀ x ∈ untilDecided decides elements, (step (.bool (!short)) x).Traced own
      (.bool (if decides x then short else !short)) [run x]) :
    (iterate false condition step elements (.bool (!short))).Traced own
      (.ok (.bool (if elements.any decides then short else !short)))
      ((untilDecided decides elements).map run) := by
  have goes : ((!short) != short) = true := by cases short <;> rfl
  have stops : (short != short) = false := by cases short <;> rfl
  -- The accumulator is what it started from, until an element decides; then no step is taken.
  induction elements with
  | nil => exact traced_pure _
  | cons x rest ih =>
    rw [untilDecided_cons] at steps
    have first := steps x List.mem_cons_self
    have asked := asks (!short) x
    rw [goes] at asked
    rw [iterate, untilDecided_cons, List.map_cons, List.any_cons]
    refine asked.bind (first.bind ?_)
    cases decided : decides x with
    | true =>
      refine traced_iterate_decided (fun y => ?_) rest
      have asked := asks short y
      rwa [stops] at asked
    | false =>
      refine ih fun y member => steps y (List.mem_cons_of_mem x ?_)
      rwa [decided, if_neg Bool.false_ne_true]

end Iteration

variable [HostObjects]

/-! ### Plans -/

namespace Plan

variable {own : Event → Prop} {provider : Provider} {s : Scope} {id : Int} {b : Bool}
  {runs : List (List Event)}

theorem traced_call {o : Overload} {more : List Overload} {function : String} {p : Plan}
    {answer : Bool} (operand : (p.eval provider false s).Traced own (.bool b) runs)
    (reached : own (.reached id)) (accepts : o.accepts [.bool b] = true)
    (invoked : own (.invoked o [.bool b])) (result : o.result [.bool b] = .bool answer) :
    ((call id function [p] (o :: more)).eval provider false s).Traced own (.bool answer) runs := by
  have regular : Value.propagate [.bool b] = none := rfl
  have answers : (dispatch function (o :: more) [.bool b]).Traced own (.bool answer) [] := by
    have called := traced_invoke invoked
    rw [result] at called
    simp only [dispatch, List.find?_cons, accepts, regular, ite_self]
    exact called
  have values : (evalAll provider [p] s).Traced own [.bool b] runs := by
    rw [evalAll]
    exact operand.quietly ((traced_pure _).bind (traced_pure _))
  rw [eval]
  refine (traced_emit reached).bind (values.quietly ?_)
  simp only [regular, ite_self]
  exact answers.bind (traced_pure _)

theorem traced_combine {l r : Plan} {short answer : Bool}
    (left : (l.eval provider false s).Traced own (.bool (!short)) [])
    (right : (r.eval provider false s).Traced own (.bool answer) runs)
    (reached : own (.reached id)) :
    ((if short then either id l r else both id l r).eval provider false s).Traced own
      (.bool answer) runs := by
  have combined : Value.combine id short (.bool (!short)) (.bool answer) = .bool answer := by
    cases short <;> cases answer <;> rfl
  cases short with
  | true =>
    rw [if_pos rfl, eval]
    refine (traced_emit reached).bind (left.bind (right.quietly ?_))
    rw [combined]
    exact traced_pure _
  | false =>
    rw [if_neg Bool.false_ne_true, eval]
    refine (traced_emit reached).bind (left.bind (right.quietly ?_))
    rw [combined]
    exact traced_pure _

/-- A loop evaluates its range and what it starts from, takes its steps, and ends in its result. -/
theorem traced_loop {o i w p r : Plan} {iterVar accuVar : String} {elements : List Value}
    {start last : Value} {v : Value} (reached : own (.reached id))
    (ranged : (o.eval provider false s).value.elements? = some elements)
    (starts : (i.eval provider false s).Traced own start [])
    (iterated : (iterate false
      (fun accu x => w.eval provider false (inside s accuVar iterVar accu x))
      (fun accu x => p.eval provider false (inside s accuVar iterVar accu x))
      elements start).Traced own (.ok last) runs)
    (ends : (r.eval provider false (.frame s accuVar last)).Traced own v []) :
    ((loop id iterVar o accuVar i w p r).eval provider false s).Traced own v
      ((o.eval provider false s).log :: runs) := by
  have regular := Value.isFailure_of_elements ranged
  rw [eval]
  refine (traced_emit reached).bind ((traced_whole _).bind ?_)
  simp only [regular, Bool.false_eq_true, ↓reduceIte, ranged]
  exact starts.bind (iterated.quietly ends)

end Plan

namespace Planner

open Plan hiding id

variable {c : Planner} {own : Event → Prop} {s : Scope} {p : Plan} {v : Value}
  {runs : List (List Event)}

theorem finished_of_rigid (rigid : p.Rigid) : c.finished p = p.decorate c.options := by
  have folded : (p.fold c.provider).value = p := by
    rw [Plan.fold, rigid.1, rigid.2.1, rigid.2.2]
    rfl
  rw [finished, folded, ite_self]

omit [HostObjects] in
theorem decorate_plain (plain : c.options.exhaustive = false) (p : Plan) :
    p.decorate c.options = p ∨ p.decorate c.options = .observed p := by
  rw [decorate, plain]
  simp only [Bool.false_and, Bool.false_eq_true, ↓reduceIte]
  split
  · exact .inr rfl
  · exact .inl rfl

omit [HostObjects] in
theorem isConst_decorate (plain : c.options.exhaustive = false) (p : Plan) :
    (p.decorate c.options).isConst = p.isConst := by
  rcases decorate_plain plain p with same | same
  · rw [same]
  · rw [same]
    rfl

theorem traced_decorate (plain : c.options.exhaustive = false)
    (traced : (p.eval c.provider false s).Traced own v runs) (node : OwnNode own p.id) :
    ((p.decorate c.options).eval c.provider false s).Traced own v runs := by
  rcases decorate_plain plain p with same | same
  · rwa [same]
  · rw [same, eval]
    exact traced.quietly ((traced_record (node.recorded v) s).bind (traced_pure v))

end Planner

end ExprEngine
