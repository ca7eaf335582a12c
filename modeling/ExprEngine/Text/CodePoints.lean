/-!
# Sets of code points

A set of code points is an ascending list of half-open intervals. Tables write one as runs
`gap.length`, where the gap counts from the end of the run before. Two sets combine by one walk
along the points where their membership changes.
-/

namespace ExprEngine.Text

structure CodePoints where
  intervals : List (Nat × Nat)
deriving DecidableEq, Inhabited

namespace CodePoints

def inIntervals (n : Nat) : List (Nat × Nat) → Bool
  | [] => false
  | (low, high) :: rest => if n < high then low ≤ n else inIntervals n rest

def contains (s : CodePoints) (n : Nat) : Bool := inIntervals n s.intervals

def containsChar (s : CodePoints) (c : Char) : Bool := s.contains c.toNat

def empty : CodePoints := ⟨[]⟩

def range (low high : Nat) : CodePoints := ⟨[(low, high + 1)]⟩

def single (n : Nat) : CodePoints := range n n

def all : CodePoints := range 0 0x10FFFF

/-! ### Combining sets -/

/-- The points where membership changes, each interval's ends in turn. -/
def edgesOf : List (Nat × Nat) → List Nat
  | [] => []
  | (low, high) :: rest => low :: high :: edgesOf rest

def ofEdges : List Nat → List (Nat × Nat)
  | low :: high :: rest => (low, high) :: ofEdges rest
  | _ => []

/-- The edges of the set that `keep` makes of two sets, from their edges; `a` and `b` tell
whether the walk is inside them. -/
def combineEdges (keep : Bool → Bool → Bool) (a b : Bool) (xs ys : List Nat) : List Nat :=
  match xs, ys with
  | [], [] => []
  | x :: xs, [] => turn x (!a) b (combineEdges keep (!a) b xs [])
  | [], y :: ys => turn y a (!b) (combineEdges keep a (!b) [] ys)
  | x :: xs, y :: ys =>
    if x < y then turn x (!a) b (combineEdges keep (!a) b xs (y :: ys))
    else if y < x then turn y a (!b) (combineEdges keep a (!b) (x :: xs) ys)
    else turn x (!a) (!b) (combineEdges keep (!a) (!b) xs ys)
termination_by xs.length + ys.length
where
  turn (n : Nat) (a' b' : Bool) (rest : List Nat) : List Nat :=
    if keep a' b' = keep a b then rest else n :: rest

def combine (keep : Bool → Bool → Bool) (s t : CodePoints) : CodePoints :=
  ⟨ofEdges (combineEdges keep false false (edgesOf s.intervals) (edgesOf t.intervals))⟩

instance : Union CodePoints := ⟨combine or⟩

instance : Inter CodePoints := ⟨combine and⟩

instance : SDiff CodePoints := ⟨combine fun a b => a && !b⟩

def exclusive (s t : CodePoints) : CodePoints := combine bne s t

def complement (s : CodePoints) : CodePoints := all \ s

def join (ss : List CodePoints) : CodePoints := ss.foldl (· ∪ ·) empty

def ofAscending (ns : List Nat) : CodePoints := ⟨ns.foldr insert []⟩
where
  insert (n : Nat) : List (Nat × Nat) → List (Nat × Nat)
    | (low, high) :: rest =>
      if n = low then (low, high) :: rest
      else if n + 1 = low then (n, high) :: rest
      else (n, n + 1) :: (low, high) :: rest
    | [] => [(n, n + 1)]

def ofPoints (ns : List Nat) : CodePoints := ofAscending (ns.mergeSort (· ≤ ·))

/-! ### The members of a set -/

def count (s : CodePoints) : Nat :=
  s.intervals.foldl (fun n (low, high) => n + (high - low)) 0

def toList (s : CodePoints) : List Nat :=
  s.intervals.flatMap fun (low, high) => List.range' low (high - low)

def single? (s : CodePoints) : Option Nat :=
  match s.intervals with
  | [(low, high)] => if low + 1 = high then some low else none
  | _ => none

/-! ### Tables -/

/-- A run table read up to some character. -/
structure Reading where
  stop : Nat := 0
  gap : Nat := 0
  number : Nat := 0
  started : Bool := false
  done : List (Nat × Nat) := []

namespace Reading

def finish (r : Reading) : Reading :=
  let low := r.stop + r.gap
  { stop := low + r.number, done := (low, low + r.number) :: r.done }

def step (r : Reading) (c : Char) : Reading :=
  if c = '.' then { r with gap := r.number, number := 0 }
  else if c = ' ' ∨ c = '\n' then if r.started then r.finish else r
  else { r with number := 10 * r.number + (c.toNat - '0'.toNat), started := true }

end Reading

def ofRuns (runs : String) : CodePoints :=
  if runs.isEmpty then empty else ⟨(runs.foldl Reading.step {}).finish.done.reverse⟩

end CodePoints

end ExprEngine.Text
