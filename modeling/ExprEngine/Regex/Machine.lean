import ExprEngine.Regex.Pattern
import ExprEngine.Text.ByteRange
import Std.Data.HashMap

/-!
# Machines

A pattern is compiled to a machine that reads a text byte by byte, forwards to find where a match
ends and backwards to find where it begins. Only the size of the machines is of interest here:
a pattern whose machine would be larger than `Machine.limit` is refused.
-/

namespace ExprEngine.Regex

open Text

inductive Direction where
  | forward
  | backward
deriving DecidableEq, Inhabited

/-- A machine under way: its states, and the bytes that they need beside their own. -/
structure Machine where
  states : Nat := 0
  beside : Nat := 0
deriving DecidableEq, Inhabited

namespace Machine

def stateBytes : Nat := 32

def stepBytes : Nat := 8

def exitBytes : Nat := 4

def limit : Nat := 10485760

def size (m : Machine) : Nat := stateBytes * m.states + m.beside

def grow? (m : Machine) (states beside : Nat) : Option Machine :=
  let m : Machine := ⟨m.states + states, m.beside + beside⟩
  if m.size ≤ limit then some m else none

def repeat? (more : Machine → Option Machine) : Nat → Machine → Option Machine
  | 0, m => some m
  | n + 1, m => (more m).bind (repeat? more n)

end Machine

/-! ### Sets of characters -/

/-- States that are known by their steps, each a byte range and the state it leads to. -/
abbrev KnownStates := Std.HashMap (List (ByteRange × Nat)) Nat

def groupHeads (ss : List (List ByteRange)) : List (ByteRange × List (List ByteRange)) :=
  ss.foldr (fun s groups => match s, groups with
    | r :: tail, (r', tails) :: more =>
      if r = r' then (r, tail :: tails) :: more else (r, [tail]) :: (r', tails) :: more
    | r :: tail, [] => [(r, [tail])]
    | [], groups => groups) []

/-- The state from which some sequences lead to `target`. States with the same steps are one;
no sequence is longer than `fuel`. -/
def forwardState? (target : Nat) : Nat → List (List ByteRange) → Machine → KnownStates →
    Option (Nat × Machine × KnownStates)
  | 0, _, m, known => some (target, m, known)
  | fuel + 1, ss, m, known => do
    let groups := groupHeads ss
    if groups.isEmpty then some (target, m, known)
    else
      let (steps, m, known) ← groups.foldlM (fun (steps, m, known) (r, tails) => do
        let (next, m, known) ← forwardState? target fuel tails m known
        some ((r, next) :: steps, m, known)) (([], m, known) : List (ByteRange × Nat) × _)
      match known[steps]? with
      | some state => some (state, m, known)
      | none =>
        let grown ← m.grow? 1 (Machine.stepBytes * steps.length)
        some (m.states, grown, known.insert steps m.states)

/-- A state of a backward machine by what it reads and where it leads. -/
structure BackwardKey where
  target : Nat
  range : ByteRange
deriving DecidableEq

def BackwardKey.slot (k : BackwardKey) : Nat :=
  let mix (h : UInt64) (n : Nat) : UInt64 := (h ^^^ n.toUInt64) * 1099511628211
  (mix (mix (mix 14695981039346656037 k.target) k.range.1) k.range.2).toNat % 1000

/-- The states of a backward machine that can be found again: a new one takes the slot of an
older one. -/
abbrev FoundStates := Std.HashMap Nat (BackwardKey × Nat)

/-- A chain of states that reads a sequence from its end and leads to `target`. -/
def backwardChain? (target : Nat) (m : Machine) (found : FoundStates) :
    List ByteRange → Option (Machine × FoundStates)
  | [] => some (m, found)
  | r :: rest =>
    let key : BackwardKey := ⟨target, r⟩
    match found[key.slot]? with
    | some (k, state) =>
      if k = key then backwardChain? state m found rest else newState key rest
    | none => newState key rest
where
  newState (key : BackwardKey) (rest : List ByteRange) : Option (Machine × FoundStates) :=
    (m.grow? 1 0).bind fun grown =>
      backwardChain? m.states grown (found.insert key.slot (key, m.states)) rest

def classMachine? (d : Direction) (s : CodePoints) (m : Machine) : Option Machine :=
  if s.intervals.all fun (_, high) => high ≤ 128 then
    m.grow? 2 (Machine.stepBytes * s.intervals.length)
  else match d with
  | .forward => do
    let started ← m.grow? 1 0
    let (_, m, _) ← forwardState? m.states 4 s.byteSequences started {}
    some m
  | .backward => do
    let started ← m.grow? 2 0
    let (m, _) ← s.byteSequences.foldlM (fun (m, found) bytes => do
      let (m, found) ← backwardChain? (started.states - 1) m found bytes
      some (← m.grow? 0 Machine.exitBytes, found)) ((started, {}) : Machine × FoundStates)
    some m

/-! ### Texts -/

/-- The texts that go on after some character, cut where one of them ends. -/
structure Branching where
  cut : List (List (Nat × List (List Nat))) := []
  current : List (Nat × List (List Nat)) := []

namespace Branching

def isLeaf (b : Branching) : Bool := b.current.isEmpty && b.cut.all List.isEmpty

def insert (byte : Nat) (rest : List Nat) :
    List (Nat × List (List Nat)) → List (Nat × List (List Nat))
  | [] => [(byte, [rest])]
  | (x, tails) :: more =>
    if x = byte then (x, tails ++ [rest]) :: more else (x, tails) :: insert byte rest more

def add (b : Branching) : List Nat → Branching
  | [] => if b.isLeaf && !b.cut.isEmpty then b else ⟨b.cut ++ [b.current], []⟩
  | byte :: rest => { b with current := insert byte rest b.current }

end Branching

/-- The machine of a choice between texts, which share what they begin with. No text is longer
than `fuel`. -/
def textsMachine? : Nat → List (List Nat) → Machine → Option Machine
  | 0, _, m => some m
  | fuel + 1, texts, m => do
    let b := texts.foldl Branching.add {}
    if b.isLeaf then some m
    else
      let runs := b.cut ++ [b.current]
      let m ← runs.foldlM (fun m run => run.foldlM (fun m (_, tails) =>
        textsMachine? fuel tails m) m) m
      let m ← runs.foldlM (fun m run =>
        if run.isEmpty then some m
        else m.grow? 1 (if run.length = 1 then 0 else Machine.stepBytes * run.length)) m
      let ways := (runs.filter (!·.isEmpty)).length + b.cut.length
      if ways = 1 then some m else m.grow? 1 (Machine.exitBytes * ways)

end ExprEngine.Regex
