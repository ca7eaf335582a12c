/-!
# Cost bounds

The least and the greatest work that an evaluation may do, in abstract units below `2 ^ 64`. The
greatest number stands for no bound at all, and sums and products stop there.
-/

namespace ExprEngine

structure Cost where
  min : Nat
  max : Nat
deriving DecidableEq, Inhabited

namespace Cost

/-- The maximum that bounds nothing. -/
def unbounded : Nat := 0xffffffffffffffff

def zero : Cost := ⟨0, 0⟩

def one : Cost := ⟨1, 1⟩

def constant (n : Nat) : Cost := ⟨n, n⟩

def isBounded (c : Cost) : Bool := c.max != unbounded

def clamp (n : Nat) : Nat := Nat.min n unbounded

theorem clamp_le_unbounded (n : Nat) : clamp n ≤ unbounded := Nat.min_le_right n unbounded

def add (a b : Cost) : Cost := ⟨clamp (a.min + b.min), clamp (a.max + b.max)⟩

instance : Add Cost := ⟨add⟩

/-- Exactly one of two alternatives. -/
def either (a b : Cost) : Cost := ⟨Nat.min a.min b.min, Nat.max a.max b.max⟩

/-- As often as `count` says, or an unknown number of times. -/
def repeated (c : Cost) : Option Nat → Cost
  | some n => ⟨clamp (c.min * n), clamp (c.max * n)⟩
  | none => ⟨0, if c.max = 0 then 0 else unbounded⟩

def sum (costs : List Cost) : Cost := costs.foldl (· + ·) zero

def anyOf? : List Cost → Option Cost
  | [] => none
  | c :: rest => some (rest.foldl either c)

def shown (c : Cost) : String :=
  "[" ++ toString c.min ++ ", " ++ (if c.isBounded then toString c.max else "unbounded") ++ "]"

end Cost

end ExprEngine
