import ExprEngine.Number.Checked

/-!
# Time zones

A zone is `UTC`, `Z`, or an offset in hours and minutes. The offset is computed in 32-bit words,
whose operations can overflow, and must be shorter than a day.
-/

namespace ExprEngine.Time

/-- The operation whose result is beyond the 32-bit words. -/
inductive Overflow where
  | add
  | multiply
deriving DecidableEq, Inhabited

def word? (n : Int) : Option Int32 :=
  if -0x80000000 ≤ n ∧ n < 0x80000000 then some (Int32.ofInt n) else none

def wordOr (operation : Overflow) (n : Int) : Except Overflow Int32 :=
  match word? n with
  | some w => .ok w
  | none => .error operation

/-- Reads a signed 32-bit word: an optional sign and at least one digit. -/
def readWord? (cs : List Char) : Option Int32 :=
  (Number.readInteger? cs).bind word?

/-- The offset of `hours` and `minutes` in seconds. -/
def offsetWord (sign hours minutes : Int32) : Except Overflow Int32 := do
  let ofHours ← wordOr .multiply (hours.toInt * 3600)
  let ofMinutes ← wordOr .multiply (minutes.toInt * 60)
  let seconds ← wordOr .add (ofHours.toInt + ofMinutes.toInt)
  wordOr .multiply (sign.toInt * seconds.toInt)

def readClock? (zone : List Char) : Option (Int32 × Int32 × Int32) := do
  let (sign, body) : Int32 × List Char ← match zone with
    | [] => none
    | '+' :: body => some (1, body)
    | '-' :: body => some (-1, body)
    | body => some (1, body)
  let (before, after) := body.span (· ≠ ':')
  let after ← after.tail?
  let hours ← readWord? before
  let minutes ← readWord? after
  if 0 ≤ minutes ∧ minutes < 60 then some (sign, hours, minutes) else none

/-- The offset of a zone in seconds, if there is such a zone. -/
def zoneOffset? (zone : String) : Except Overflow (Option Int) :=
  if zone = "UTC" ∨ zone = "Z" then .ok (some 0)
  else match readClock? zone.toList with
    | none => .ok none
    | some (sign, hours, minutes) => do
      let offset := (← offsetWord sign hours minutes).toInt
      return if -86400 < offset ∧ offset < 86400 then some offset else none

end ExprEngine.Time
