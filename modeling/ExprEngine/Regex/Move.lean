import ExprEngine.Regex.Pattern
import Std.Data.HashMap

/-!
# Moves

A pattern searches a text by moving a set of positions to the positions where a match that began
at one of them may end. The set is a number whose bit `i` stands for position `i`. On one text a
pattern is a `Move`, which knows where each condition of the pattern holds.
-/

namespace ExprEngine.Regex

open Text

/-! ### Where conditions hold -/

abbrev Places := Std.HashMap Nat Nat

namespace Places

def ofText (text : List Char) : Places :=
  (text.foldl (fun (places, here) c =>
    (places.insert c.toNat (places.getD c.toNat 0 ||| here), here <<< 1)) (({} : Places), 1)).1

def before (places : Places) (c : Char) : Nat := places.getD c.toNat 0

def beforeAny (places : Places) (s : CodePoints) : Nat :=
  places.fold (fun mask n positions => if s.contains n then mask ||| positions else mask) 0

end Places

def assertionMask (a : Assertion) (text : List Char) : Nat :=
  ((none :: text.map some).zip (text.map some ++ [none])).foldr
    (fun (before, after) rest => 2 * rest + (a.holds before after).toNat) 0

/-! ### Moving -/

/-- What a pattern does to the positions of one text. -/
inductive Move where
  /-- Passes one character after another, each at the positions of its mask. -/
  | pass (masks : List Nat)
  /-- Keeps the positions of a mask. -/
  | keep (mask : Nat)
  | sequence (a b : Move)
  | choice (a b : Move)
  | times (a : Move) (least : Nat) (most : Option Nat)
deriving Inhabited

def iterate (move : Nat → Nat) : Nat → Nat → Nat
  | 0, s => s
  | n + 1, s =>
    let t := move s
    if t = s then s else iterate move n t

/-- Where up to `steps` moves from `frontier` lead, besides what is `reached`. A position that
has been `seen` need not be moved from again. -/
def spread (move : Nat → Nat) : Nat → Nat → Nat → Nat → Nat
  | 0, _, _, reached => reached
  | steps + 1, seen, frontier, reached =>
    let next := move frontier
    let fresh := next ^^^ (next &&& seen)
    if fresh = 0 then reached ||| next
    else spread move steps (seen ||| fresh) fresh (reached ||| next)

def onwards (move : Nat → Nat) (steps s : Nat) : Nat := spread move steps s s 0

namespace Move

def ofPattern (text : List Char) (places : Places) : Pattern → Move
  | .empty => pass []
  | .literal cs => pass (cs.map places.before)
  | .charIn s => pass [places.beforeAny s]
  | .assertion a => keep (assertionMask a text)
  | .sequence a b => sequence (ofPattern text places a) (ofPattern text places b)
  | .choice a b => choice (ofPattern text places a) (ofPattern text places b)
  | .times a least most => times (ofPattern text places a) least most
  | .group _ a => ofPattern text places a

/-- The ends of the matches that begin in `s`. There are only `enough` positions, so that moves
beyond that many change nothing. -/
def run (enough : Nat) (m : Move) (s : Nat) : Nat :=
  if s = 0 then 0
  else match m with
  | pass masks => masks.foldl (fun s mask => (s &&& mask) <<< 1) s
  | keep mask => s &&& mask
  | sequence a b => b.run enough (a.run enough s)
  | choice a b => a.run enough s ||| b.run enough s
  | times a least none =>
    if least = 0 then s ||| onwards (a.run enough) enough s
    else onwards (a.run enough) enough (iterate (a.run enough) (min (least - 1) enough) s)
  | times a least (some most) =>
    let started := iterate (a.run enough) (min least enough) s
    started ||| onwards (a.run enough) (min (most - least) enough) started

end Move

def Pattern.matchesIn (p : Pattern) (text : String) : Bool :=
  let cs := text.toList
  let enough := cs.length + 1
  (Move.ofPattern cs (.ofText cs) p).run enough (Nat.pow 2 enough - 1) != 0

end ExprEngine.Regex
