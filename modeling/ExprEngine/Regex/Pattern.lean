import ExprEngine.Regex.Assertion

/-!
# Patterns

A pattern says which parts of a text match. The functions `ofClass`, `repeated`, `inOrder` and
`oneOf` put patterns together and keep them simple.
-/

namespace ExprEngine.Regex

open Text

inductive Pattern where
  | empty
  | literal (text : List Char)
  | charIn (s : CodePoints)
  | assertion (a : Assertion)
  | sequence (a b : Pattern)
  | choice (a b : Pattern)
  /-- From `least` to `most` times, or any number from `least` on. -/
  | times (a : Pattern) (least : Nat) (most : Option Nat)
  /-- A group with a number. -/
  | group (index : Nat) (a : Pattern)
deriving DecidableEq, Inhabited

namespace Pattern

/-! ### Lengths of matches -/

def byteCount (cs : List Char) : Nat := cs.foldl (fun n c => n + c.utf8Size) 0

/-- The fewest bytes of a match, if no part of the pattern is without a match. -/
def minLength : Pattern → Option Nat
  | empty | assertion _ => some 0
  | literal cs => some (byteCount cs)
  | charIn s => s.intervals.head?.map fun (low, _) => (Char.ofNat low).utf8Size
  | sequence a b => do some ((← a.minLength) + (← b.minLength))
  | choice a b => do some (min (← a.minLength) (← b.minLength))
  | times a least _ => a.minLength.map (least * ·)
  | group _ a => a.minLength

/-- The most bytes of a match, if there is a bound and no part is without a match. -/
def maxLength : Pattern → Option Nat
  | empty | assertion _ => some 0
  | literal cs => some (byteCount cs)
  | charIn s => s.intervals.getLast?.map fun (_, high) => (Char.ofNat (high - 1)).utf8Size
  | sequence a b => do some ((← a.maxLength) + (← b.maxLength))
  | choice a b => do some (max (← a.maxLength) (← b.maxLength))
  | times a _ most => do some ((← most) * (← a.maxLength))
  | group _ a => a.maxLength

def atTextStart : Pattern → Bool
  | assertion a => a = .textStart
  | sequence a b => a.atTextStart || (a.maxLength = some 0 && b.atTextStart)
  | choice a b => a.atTextStart && b.atTextStart
  | times a least _ => 0 < least && a.atTextStart
  | group _ a => a.atTextStart
  | _ => false

def atTextEnd : Pattern → Bool
  | assertion a => a = .textEnd
  | sequence a b => b.atTextEnd || (b.maxLength = some 0 && a.atTextEnd)
  | choice a b => a.atTextEnd && b.atTextEnd
  | times a least _ => 0 < least && a.atTextEnd
  | group _ a => a.atTextEnd
  | _ => false

/-! ### Putting patterns together -/

def surrogates : CodePoints := .range 0xD800 0xDFFF

def ofClass (s : CodePoints) : Pattern :=
  let s := s \ surrogates
  match s.single? with
  | some n => literal [Char.ofNat n]
  | none => charIn s

/-- A pattern some number of times. What never takes a character need not match twice. -/
def repeated (p : Pattern) (least : Nat) (most : Option Nat) : Pattern :=
  let still := p.maxLength = some 0
  let least := if still then min least 1 else least
  let most := if still then some (min (most.getD 1) 1) else most
  if most = some 0 then empty
  else if least = 1 ∧ most = some 1 then p
  else times p least most

def parts : Pattern → List Pattern
  | empty => []
  | sequence a b => a :: b.parts
  | p => [p]

def ofParts : List Pattern → Pattern
  | [] => empty
  | [p] => p
  | p :: rest => sequence p (ofParts rest)

/-- A part in front of others; characters next to each other make one text. -/
def addPart : Pattern → List Pattern → List Pattern
  | literal s, literal t :: rest => literal (s ++ t) :: rest
  | p, rest => p :: rest

def inOrder (ps : List Pattern) : Pattern := ofParts ((ps.flatMap parts).foldr addPart [])

def branches : Pattern → List Pattern
  | choice a b => a :: b.branches
  | p => [p]

def ofBranches : List Pattern → Pattern
  | [] => charIn .empty
  | [p] => p
  | p :: rest => choice p (ofBranches rest)

def char? : Pattern → Option Nat
  | literal [c] => some c.toNat
  | _ => none

def class? : Pattern → Option CodePoints
  | charIn s => some s
  | _ => none

/-- A choice; one between characters only or between sets only is itself a set. -/
def merged (ps : List Pattern) : Pattern :=
  let bs := ps.flatMap branches
  match bs.mapM char?, bs.mapM class? with
  | some ns, _ => if bs.length < 2 then ofBranches bs else ofClass (.ofPoints ns)
  | _, some ss => if bs.length < 2 then ofBranches bs else ofClass (.join ss)
  | none, none => ofBranches bs

def commonPrefix : List Pattern → List Pattern → List Pattern
  | a :: as, b :: bs => if a = b then a :: commonPrefix as bs else []
  | _, _ => []

/-- What all of some branches begin with; one of a single part shares nothing. -/
def shared (bs : List Pattern) : List Pattern :=
  if bs.all fun b => 1 < b.parts.length then
    match bs.map parts with
    | ps :: rest => rest.foldl commonPrefix ps
    | [] => []
  else []

/-- One of several patterns. What all branches begin with is written once in front. -/
def oneOf (ps : List Pattern) : Pattern :=
  match merged ps with
  | choice a b =>
    let bs := branches (choice a b)
    let common := shared bs
    if common.isEmpty then choice a b
    else inOrder (common ++ [merged (bs.map fun b => inOrder (b.parts.drop common.length))])
  | p => p

end Pattern

end ExprEngine.Regex
