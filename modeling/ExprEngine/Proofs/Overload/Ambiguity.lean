import ExprEngine.Overload.Dispatch
import ExprEngine.Proofs.Overload.Registration
import Mathlib.Data.List.Perm.Basic

/-!
# Ambiguous calls

Overloads of one name that accept the same arguments have guards that do not exclude each other:
they guard different operands, or ask the same operand for different traits. Calls whose arguments
do not pass two such guards go to one overload only, in whatever order the overloads were added.
-/

namespace ExprEngine

namespace Overload

variable {a b : Overload} {args : List Value}

/-- Whether the arguments have what the guard asks for. -/
def passes (o : Overload) (args : List Value) : Bool :=
  match o.required with
  | none => true
  | some traits =>
    match args[o.guarded]? with
    | some v => v.valueType.hasTraits traits
    | none => false

theorem accepts_eq (o : Overload) (args : List Value) :
    o.accepts args = (o.takes args.length && o.passes args) := rfl

/-- Both are guarded, at different places or by traits of which none is in both guards. -/
def Independent (a b : Overload) : Prop :=
  ∃ s t, a.required = some s ∧ b.required = some t ∧
    (a.guarded = b.guarded → ∀ trait ∈ s, trait ∉ t)

theorem overlaps_comm (a b : Overload) : a.overlaps b = b.overlaps a := by
  have arities : a.aritiesOverlap b = b.aritiesOverlap a := by
    unfold aritiesOverlap
    cases a.arity <;> cases b.arity <;> simp [Bool.beq_comm]
  have guards : a.guardsOverlap b = b.guardsOverlap a := by
    unfold guardsOverlap
    cases a.required with
    | none => cases b.required <;> rfl
    | some s =>
      cases b.required with
      | none => rfl
      | some t =>
        have places : (a.guarded == b.guarded) = (b.guarded == a.guarded) := Bool.beq_comm
        have common : s.any (· ∈ t) = t.any (· ∈ s) := by
          rw [Bool.eq_iff_iff]
          simp [List.any_eq_true, and_comm]
        simp only [places, common]
  simp only [overlaps, arities, guards]

theorem aritiesOverlap_of_takes {n : Nat} (left : a.takes n = true) (right : b.takes n = true) :
    a.aritiesOverlap b = true := by
  unfold takes at left right
  unfold aritiesOverlap
  cases isA : a.arity <;> cases isB : b.arity <;> simp_all

theorem independent_of_accepts (apart : a.overlaps b = false) (left : a.accepts args = true)
    (right : b.accepts args = true) : a.Independent b := by
  rw [accepts_eq, Bool.and_eq_true] at left right
  rw [overlaps, aritiesOverlap_of_takes left.1 right.1, Bool.true_and] at apart
  unfold guardsOverlap at apart
  split at apart
  · next s t isS isT =>
    refine ⟨s, t, isS, isT, fun place trait inS inT => ?_⟩
    have common : s.any (· ∈ t) = true := by simpa using ⟨trait, inS, inT⟩
    simp [place, common] at apart
  · cases apart

end Overload

namespace Registry

/-- The registry that adding overloads one after the other ends in. -/
def addEach (r : Registry) (os : List Overload) : Except RegistryError Registry :=
  os.foldlM add r

theorem addEach_cons (r : Registry) (o : Overload) (os : List Overload) :
    r.addEach (o :: os) = (r.add o).bind fun s => s.addEach os := rfl

theorem add_of_apart {r : Registry} {o : Overload} (named : o.id.isEmpty = false)
    (apart : ∀ other ∈ r.overloads, other.id = o.id → other.overlaps o = false) :
    r.add o = .ok ⟨r.overloads ++ [o]⟩ := by
  have free : (r.find o.id).any (·.overlaps o) = false := by
    apply Bool.eq_false_iff.mpr
    intro overlaps
    obtain ⟨other, found, overlaps⟩ := List.any_eq_true.mp overlaps
    obtain ⟨member, same⟩ := List.mem_filter.mp found
    simp [apart other member (by simpa using same)] at overlaps
  simp [add, named, free]

/-- Overloads can be added one after the other exactly if they are named and do not overlap. -/
theorem addEach_eq_ok_iff {r s : Registry} {os : List Overload} (disjoint : r.Disjoint) :
    r.addEach os = .ok s ↔
      (∀ o ∈ os, o.id.isEmpty = false) ∧ s.overloads = r.overloads ++ os ∧ s.Disjoint := by
  induction os generalizing r with
  | nil =>
    constructor
    · intro added
      obtain rfl := Except.ok.inj added
      simpa using disjoint
    · rintro ⟨-, same, -⟩
      obtain ⟨overloads⟩ := s
      simp only [List.append_nil] at same
      subst same
      rfl
  | cons o rest ih =>
    rw [addEach_cons]
    constructor
    · intro added
      cases first : r.add o with
      | error e => simp [first, Except.bind] at added
      | ok next =>
        rw [first] at added
        obtain ⟨named, -, appended⟩ := add_ok first
        obtain ⟨others, all, apart⟩ := (ih (disjoint_add disjoint first)).mp added
        refine ⟨List.forall_mem_cons.mpr ⟨named, others⟩, ?_, apart⟩
        rw [all, appended, List.append_assoc, List.singleton_append]
    · rintro ⟨named, all, apart⟩
      have pairs := apart
      rw [Disjoint, all, List.pairwise_append] at pairs
      have first := add_of_apart (named o List.mem_cons_self) fun other member same =>
        pairs.2.2 other member o List.mem_cons_self same
      rw [first]
      refine (ih (disjoint_add disjoint first)).mpr ⟨?_, ?_, apart⟩
      · exact fun other member => named other (List.mem_cons_of_mem o member)
      · simpa using all

theorem disjoint_perm {r s : Registry} (disjoint : r.Disjoint)
    (same : r.overloads.Perm s.overloads) : s.Disjoint := by
  refine (same.pairwise_iff ?_).mp disjoint
  intro a b apart named
  rw [Overload.overlaps_comm]
  exact apart named.symm

theorem addEach_perm {r : Registry} {os os' : List Overload} (same : os.Perm os')
    (added : empty.addEach os = .ok r) :
    ∃ s, empty.addEach os' = .ok s ∧ r.overloads.Perm s.overloads := by
  obtain ⟨named, all, disjoint⟩ := (addEach_eq_ok_iff .nil).mp added
  have perm : r.overloads.Perm (⟨os'⟩ : Registry).overloads := by simpa [all, empty] using same
  refine ⟨⟨os'⟩, (addEach_eq_ok_iff .nil).mpr ⟨?_, rfl, disjoint_perm disjoint perm⟩, perm⟩
  exact fun o member => named o (same.mem_iff.mpr member)

theorem accepting_independent {r : Registry} (disjoint : r.Disjoint) (function : String)
    (args : List Value) :
    ((r.find function).filter (·.accepts args)).Pairwise Overload.Independent := by
  rw [find, List.filter_filter]
  refine (disjoint.filter _).imp_of_mem fun {a b} inA inB apart => ?_
  simp only [List.mem_filter, Bool.and_eq_true, beq_iff_eq] at inA inB
  exact Overload.independent_of_accepts (apart (inA.2.2.trans inB.2.2.symm)) inA.2.1 inB.2.1

end Registry

section

variable [HostObjects]

theorem dispatch_filter (function : String) (os : List Overload) (args : List Value) :
    dispatch function (os.filter (·.accepts args)) args = dispatch function os args := by
  have first : (os.filter (·.accepts args)).find? (·.accepts args) = os.find? (·.accepts args) := by
    simp [List.find?_filter]
  simp only [dispatch, first]

/-- Where at most one overload accepts the arguments, the order of the overloads does not matter. -/
theorem dispatch_perm {function : String} {os os' : List Overload} {args : List Value}
    (same : os.Perm os') (single : (os.filter (·.accepts args)).length ≤ 1) :
    dispatch function os' args = dispatch function os args := by
  have accepting := same.filter (·.accepts args)
  have equal : os'.filter (·.accepts args) = os.filter (·.accepts args) := by
    generalize os.filter (·.accepts args) = found at accepting single
    match found with
    | [] => exact List.nil_perm.mp accepting
    | [o] => exact (List.singleton_perm.mp accepting).symm
    | _ :: _ :: _ => simp at single
  rw [← dispatch_filter function os', equal, dispatch_filter]

end

namespace Registry

/-- Where no two overloads for so many arguments have independent guards that the arguments pass,
at most one overload accepts them. -/
theorem length_accepting_le {r : Registry} (disjoint : r.Disjoint) {function : String}
    {args : List Value}
    (excluded : ((r.find function).filter (·.takes args.length)).Pairwise fun a b =>
      a.Independent b → a.passes args = true → b.passes args = false) :
    ((r.find function).filter (·.accepts args)).length ≤ 1 := by
  have accepting : (r.find function).filter (·.accepts args) =
      ((r.find function).filter (·.takes args.length)).filter (·.passes args) := by
    simp only [Overload.accepts_eq, List.filter_filter, Bool.and_comm]
  have independent := accepting_independent disjoint function args
  rw [accepting] at independent ⊢
  have both := independent.and (excluded.filter (·.passes args))
  have pass : ∀ o ∈ ((r.find function).filter (·.takes args.length)).filter (·.passes args),
      o.passes args = true := fun o member => (List.mem_filter.mp member).2
  generalize ((r.find function).filter (·.takes args.length)).filter (·.passes args) = found
    at both pass ⊢
  match found with
  | [] | [_] => simp
  | a :: b :: rest =>
    obtain ⟨first, -⟩ := List.pairwise_cons.mp both
    obtain ⟨independent, excludes⟩ := first b List.mem_cons_self
    have failed := excludes independent (pass a List.mem_cons_self)
    simp [pass b (List.mem_cons_of_mem a List.mem_cons_self)] at failed

section

variable [HostObjects]

/-- The overloads that accept the arguments of a call have independent guards. Where the arguments
pass no two such guards, at most one overload accepts them, and the order in which overloads were
added does not matter. -/
theorem dispatch_unambiguous {r : Registry} {os : List Overload}
    (added : empty.addEach os = .ok r) (function : String) (args : List Value) :
    ((r.find function).filter (·.accepts args)).Pairwise Overload.Independent ∧
      (((r.find function).filter (·.takes args.length)).Pairwise (fun a b =>
          a.Independent b → a.passes args = true → b.passes args = false) →
        ((r.find function).filter (·.accepts args)).length ≤ 1 ∧
          ∀ os', os.Perm os' → ∃ s, empty.addEach os' = .ok s ∧
            dispatch function (s.find function) args =
              dispatch function (r.find function) args) := by
  have disjoint := ((addEach_eq_ok_iff .nil).mp added).2.2
  refine ⟨accepting_independent disjoint function args, fun excluded => ?_⟩
  have single := length_accepting_le disjoint excluded
  refine ⟨single, fun os' same => ?_⟩
  obtain ⟨s, other, perm⟩ := addEach_perm same added
  exact ⟨s, other, dispatch_perm (perm.filter _) single⟩

end

attribute [local instance] HostObjects.silent

def joinAdded : Overload :=
  { id := "join", required := some [.adder], implementation := .binary fun a _ => .ok a }

def joinSearched : Overload :=
  { id := "join", required := some [.matcher], implementation := .binary fun _ b => .ok b }

/-- Numbers can be added and not searched, so the order of the two overloads does not matter. -/
theorem joinOfNumbers_unambiguous :
    empty.addEach [joinAdded, joinSearched] = .ok ⟨[joinAdded, joinSearched]⟩ ∧
      ∃ s, empty.addEach [joinSearched, joinAdded] = .ok s ∧
        dispatch "join" (s.find "join") [.int 1, .int 2] =
          dispatch "join" [joinAdded, joinSearched] [.int 1, .int 2] := by
  have added : empty.addEach [joinAdded, joinSearched] = .ok ⟨[joinAdded, joinSearched]⟩ := rfl
  have unambiguous := dispatch_unambiguous added "join" [.int 1, .int 2]
  have excluded : (([joinAdded, joinSearched] : List Overload).filter (·.takes 2)).Pairwise
      (fun a b => a.Independent b → a.passes [.int 1, .int 2] = true →
        b.passes [.int 1, .int 2] = false) := by
    refine .cons (fun b member _ _ => ?_) (List.pairwise_singleton _ _)
    obtain rfl := List.mem_singleton.mp member
    rfl
  exact ⟨added, (unambiguous.2 excluded).2 _ (.swap _ _ _)⟩

/-- Texts can be added and searched, so they are accepted by both overloads, and the one that was
added first answers. -/
theorem joinOfTexts_ambiguous :
    ∃ r s, empty.addEach [joinAdded, joinSearched] = .ok r ∧
      empty.addEach [joinSearched, joinAdded] = .ok s ∧
      ((r.find "join").filter (·.accepts [.string "a", .string "b"])).length = 2 ∧
      (dispatch "join" (r.find "join") [.string "a", .string "b"]).value ≠
        (dispatch "join" (s.find "join") [.string "a", .string "b"]).value := by
  refine ⟨⟨[joinAdded, joinSearched]⟩, ⟨[joinSearched, joinAdded]⟩, rfl, rfl, rfl, ?_⟩
  have first : (dispatch "join" [joinAdded, joinSearched] [.string "a", .string "b"]).value =
      .string "a" := rfl
  have last : (dispatch "join" [joinSearched, joinAdded] [.string "a", .string "b"]).value =
      .string "b" := rfl
  intro same
  have texts := first.symm.trans (same.trans last)
  simp at texts

end Registry

end ExprEngine
