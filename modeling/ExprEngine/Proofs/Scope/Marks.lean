import ExprEngine.Proofs.Scope.Readings

/-!
# Marks in towers of scopes

A layer marks a variable when it has a pattern that names the variable as a whole. Only one layer's
patterns are in force: those of the mark nearest to the top hide the ones below it, and those of a
child hide the ones of its parent. A mark that is exposed makes the variable unknown, also where a
layer above binds it.
-/

namespace ExprEngine

namespace Scope

variable {name : String} {s : Scope}

inductive Marks (name : String) : Scope → Prop where
  | here {inner ps} (listed : ⟨name, []⟩ ∈ ps) : Marks name (.marked inner ps)
  | marked {inner ps} (below : Marks name inner) : Marks name (.marked inner ps)
  | frame {parent n v} (apart : name ≠ n) (below : Marks name parent) :
      Marks name (.frame parent n v)
  | recording {inner} (below : Marks name inner) : Marks name (.recording inner)
  | child {parent child} (below : Marks name child) : Marks name (.layered parent child)
  | parent {parent child} (unbound : (child.resolve name).value = none)
      (below : Marks name parent) : Marks name (.layered parent child)

/-- Some layer marks the variable, and no patterns above or beside that one hide it. -/
inductive Exposes (name : String) : Scope → Prop where
  | here {inner ps} (listed : ⟨name, []⟩ ∈ ps) : Exposes name (.marked inner ps)
  | frame {parent n v} (below : Exposes name parent) : Exposes name (.frame parent n v)
  | recording {inner} (below : Exposes name inner) : Exposes name (.recording inner)
  | child {parent child} (below : Exposes name child) : Exposes name (.layered parent child)
  | parent {parent child} (silent : child.patterns = []) (below : Exposes name parent) :
      Exposes name (.layered parent child)

theorem patterns_layered (parent child : Scope) :
    (layered parent child).patterns =
      if child.patterns = [] then parent.patterns else child.patterns := by
  simp only [patterns, List.isEmpty_iff]

theorem exposes_iff : Exposes name s ↔ ⟨name, []⟩ ∈ s.patterns := by
  constructor
  · intro exposed
    induction exposed with
    | here listed => exact listed
    | frame _ ih => exact ih
    | recording _ ih => exact ih
    | child _ ih =>
      rw [patterns_layered, if_neg (List.ne_nil_of_mem ih)]
      exact ih
    | parent silent _ ih =>
      rw [patterns_layered, if_pos silent]
      exact ih
  · intro listed
    induction s with
    | empty | table | function => cases listed
    | layered parent child parentExposed childExposed =>
      rw [patterns_layered] at listed
      split at listed
      · next silent => exact .parent silent (parentExposed listed)
      · exact .child (childExposed listed)
    | frame parent n v ih => exact .frame (ih listed)
    | marked inner ps ih => exact .here listed
    | recording inner ih => exact .recording (ih listed)

end Scope

namespace Variable

open Scope

variable {x : Variable} {name : String} {s : Scope}

/-- What a pattern makes of a variable is unknown: its own value, or that of one of its keys. -/
theorem isUnknown_of_unknown? {u : Value} (marked : (x.unknown? s name).value = some u) :
    u.isUnknown = true := by
  unfold unknown? at marked
  split at marked
  · cases marked
  · split at marked
    · obtain rfl := Option.some.inj marked
      rfl
    · rw [Run.value_bind] at marked
      split at marked
      · next stopped =>
        obtain rfl := Option.some.inj marked
        obtain ⟨-, -, -, unknown⟩ := Step.key_of_keys_error stopped
        exact unknown
      · obtain ⟨last, -, rfl⟩ := Option.map_eq_some_iff.mp marked
        rfl

theorem unknown?_isSome (exposed : Exposes name s) : (x.unknown? s name).value.isSome = true :=
  isSome_unknown? (exposes_iff.mp exposed) (by simp [UnknownPattern.covers, PatternStep.agree])

variable {provider : Provider}

theorem resolveName?_of_exposes (provider : Provider) (free : x.isLocal = false)
    (exposed : Exposes name s) :
    ∃ u, (x.resolveName? provider s name).value = some u ∧ u.isUnknown = true := by
  obtain ⟨u, marked⟩ := Option.isSome_iff_exists.mp (unknown?_isSome (x := x) exposed)
  refine ⟨u, ?_, isUnknown_of_unknown? marked⟩
  simp [value_resolveName?, free, marked]

theorem isUnknown_of_unbound (unbound : (s.resolve name).value = none)
    (unlisted : provider.findIdent name = none) {u : Value}
    (found : (x.resolveName? provider s name).value = some u) : u.isUnknown = true := by
  rw [value_resolveName?, unbound, unbound?, unlisted] at found
  split at found
  · next marked =>
    obtain rfl := Option.some.inj found
    split at marked
    · cases marked
    · exact isUnknown_of_unknown? marked
  · cases found

theorem firstSome_of_exposes (free : x.isLocal = false) (exposed : Exposes name s)
    {earlier : List String} (later : List String)
    (unbound : ∀ n ∈ earlier, (s.resolve n).value = none ∧ provider.findIdent n = none) :
    ∃ u, (firstSome (x.resolveName? provider s) (earlier ++ name :: later)).value = some u ∧
      u.isUnknown = true := by
  induction earlier with
  | nil =>
    obtain ⟨u, found, unknown⟩ := resolveName?_of_exposes provider free exposed
    exact ⟨u, by simp [firstSome, found], unknown⟩
  | cons n rest ih =>
    obtain ⟨⟨unbound, unlisted⟩, others⟩ := List.forall_mem_cons.mp unbound
    cases tried : (x.resolveName? provider s n).value with
    | some u =>
      exact ⟨u, by simp [firstSome, tried], isUnknown_of_unbound unbound unlisted tried⟩
    | none =>
      obtain ⟨u, found, unknown⟩ := ih others
      exact ⟨u, by simp [firstSome, tried, found], unknown⟩

end Variable

namespace Plan

open Scope

section

variable [HostObjects]

/-- A variable with an exposed mark is unknown, with any qualifiers, and also where a layer above
the mark binds it. -/
theorem isUnknown_of_exposes {name : String} {s : Scope} (exposed : Exposes name s)
    (provider : Provider) {earlier : List String}
    (unbound : ∀ n ∈ earlier, (s.resolve n).value = none ∧ provider.findIdent n = none)
    (later : List String) (id : Int) (qs : List Qualifier) (everything : Bool) :
    (resolve provider (.absolute id false (earlier ++ name :: later) qs) everything
      s).value.isUnknown = true := by
  obtain ⟨u, found, unknown⟩ := Variable.firstSome_of_exposes
    (x := ⟨id, false, earlier ++ name :: later, steps provider qs⟩) rfl exposed later unbound
  change ((Variable.firstSome _ (earlier ++ name :: later)).value.getD _).isUnknown = true
  rw [found]
  exact unknown

end

attribute [local instance] HostObjects.silent

/-- A mark is in force through a child without patterns, a loop and a recording layer; the marked
variable is bound below and above it. -/
def markedRequest : Scope :=
  .recording <| .frame (.layered
    (.marked (.table (Table.empty.bind "x" (.value (.int 1)))) [⟨"y", []⟩, ⟨"x", []⟩])
    (.table (Table.empty.bind "x" (.value (.int 2))))) "i" (.int 0)

theorem markedRequest_unknown :
    Exposes "x" markedRequest ∧
      (∀ n ∈ ["a.x"], (markedRequest.resolve n).value = none ∧
        TypeTable.empty.provider.findIdent n = none) ∧
      (resolve TypeTable.empty.provider (.absolute 7 false ["a.x", "x"]
        [.computed 8 (.attr 9 (.absolute 9 true ["i"] []))]) false markedRequest).value.isUnknown
          = true := by
  have exposed : Exposes "x" markedRequest :=
    .recording (.frame (.parent rfl (.here (by decide))))
  have unbound : ∀ n ∈ ["a.x"], (markedRequest.resolve n).value = none ∧
      TypeTable.empty.provider.findIdent n = none := by
    intro n member
    obtain rfl := List.mem_singleton.mp member
    exact ⟨rfl, rfl⟩
  have unknown := isUnknown_of_exposes exposed TypeTable.empty.provider unbound [] 7
    [.computed 8 (.attr 9 (.absolute 9 true ["i"] []))] false
  exact ⟨exposed, unbound, unknown⟩

/-- Marks of other variables hide those of a layer further in, and those of a child the ones of its
parent. -/
theorem mark_hidden_by_marks :
    (let s : Scope := .marked (.marked (.table .empty) [⟨"x", []⟩]) [⟨"y", []⟩]
     Marks "x" s ∧ (resolve TypeTable.empty.provider (.absolute 1 false ["x"] []) false s).value =
      Variable.noSuchAttribute 1 "x") ∧
    (let s : Scope := .layered (.marked (.table .empty) [⟨"x", []⟩])
      (.marked (.table .empty) [⟨"y", []⟩])
     Marks "x" s ∧ (resolve TypeTable.empty.provider (.absolute 1 false ["x"] []) false s).value =
      Variable.noSuchAttribute 1 "x") :=
  ⟨⟨.marked (.here (by decide)), rfl⟩, ⟨.parent rfl (.here (by decide)), rfl⟩⟩

end Plan

end ExprEngine
