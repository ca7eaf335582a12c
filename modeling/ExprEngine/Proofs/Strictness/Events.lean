import ExprEngine.Proofs.Evaluation.Watch
import ExprEngine.Proofs.Partial.Covers

/-!
# Events of evaluations

Failures reach the implementations of non-strict overloads only. `Event.Regular` says so of one
event, and `eval_regular` of all events of an evaluation, whatever the plan and the scope are.
-/

namespace ExprEngine

namespace Event

/-- A call without failures among the arguments, unless the overload takes them. -/
def Regular : Event → Prop
  | invoked o args => o.nonStrict = true ∨ ∀ v ∈ args, v.isFailure = false
  | received _ receiver args => ∀ v ∈ receiver :: args, v.isFailure = false
  | constructed _ fields => ∀ v ∈ fields.map Prod.snd, v.isFailure = false
  | _ => True

end Event

namespace Run

variable {α β : Type}

def Regular (r : Run α) : Prop := ∀ e ∈ r.log, e.Regular

theorem regular_pure (a : α) : (pure a : Run α).Regular := fun _ member => nomatch member

theorem regular_bind {r : Run α} {f : α → Run β} (first : r.Regular)
    (next : (f r.value).Regular) : (r >>= f).Regular := by
  intro e member
  rw [log_bind] at member
  rcases List.mem_append.mp member with member | member
  · exact first e member
  · exact next e member

theorem regular_emit {e : Event} (regular : e.Regular) : (emit e).Regular := by
  intro other member
  obtain rfl := List.mem_singleton.mp member
  exact regular

theorem regular_attempt (x : Except Panic Value) : (attempt x).Regular := by
  cases x with
  | ok v => exact regular_pure v
  | error p => exact regular_bind (regular_emit trivial) (regular_pure _)

end Run

open Run

/-! ### Calls -/

namespace Overload

theorem invoke_regular {o : Overload} {args : List Value}
    (allowed : o.nonStrict = true ∨ ∀ v ∈ args, v.isFailure = false) :
    (o.invoke args).Regular := by
  unfold invoke
  split
  · exact regular_bind (regular_emit allowed) (regular_pure _)
  · exact regular_pure _

end Overload

variable [HostObjects]

theorem receiveCall_regular (function : String) {args : List Value}
    (regular : ∀ v ∈ args, v.isFailure = false) : (receiveCall function args).Regular := by
  unfold receiveCall
  split
  · split
    · exact regular_bind (regular_emit regular) (regular_attempt _)
    · exact regular_pure _
  · exact regular_pure _

theorem dispatch_regular (function : String) (candidates : List Overload) (args : List Value) :
    (dispatch function candidates args).Regular := by
  unfold dispatch
  split
  · next o _ =>
    split
    · next nonStrict => exact Overload.invoke_regular (.inl nonStrict)
    · split
      · exact regular_pure _
      · next passed => exact Overload.invoke_regular (.inr (Value.regular_of_propagate passed))
  · split
    · exact regular_pure _
    · next passed => exact receiveCall_regular function (Value.regular_of_propagate passed)

/-! ### Plans -/

namespace Watch

def regular : Watch where
  scopes _ := True
  logs log := ∀ e ∈ log, e.Regular
  pending _ log := ∀ e ∈ log, e.Regular
  loose _ := True
  seen _ := True
  loops := True

omit [HostObjects] in
theorem regular_append {first rest : List Event} (before : regular.logs first)
    (after : regular.logs rest) : regular.logs (first ++ rest) :=
  List.forall_mem_append.mpr ⟨before, after⟩

theorem regular_sound (provider : Provider) : regular.Sound provider where
  nil := fun _ member => nomatch member
  append := regular_append
  plain e plain := by
    refine List.forall_mem_singleton.mpr ?_
    cases e <;> first | exact trivial | cases plain
  dispatched := dispatch_regular
  constructed typeName fields passed :=
    List.forall_mem_singleton.mpr (Value.regular_of_propagate passed)
  begins id := List.forall_mem_singleton.mpr trivial
  continues := regular_append
  weakens := id
  settles _ := id
  records := by
    intro q scope _ _ logs
    refine regular_append logs ?_
    unfold Scope.record
    split
    · exact List.forall_mem_singleton.mpr trivial
    · exact fun _ member => nomatch member
  frames _ _ _ _ _ := trivial

end Watch

theorem Plan.eval_regular (provider : Provider) (p : Plan) (everything : Bool) (scope : Scope) :
    (eval provider p everything scope).Regular := by
  have always : Watch.regular.Always := ⟨fun _ => trivial, fun _ => trivial, trivial⟩
  exact eval_watched (Watch.regular_sound provider) (watched_of_always always p false) everything
    trivial

end ExprEngine
