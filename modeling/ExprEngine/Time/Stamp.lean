import ExprEngine.Time.Timestamp

/-!
# Timestamps as text

The internet format of dates and times: a date, a time with an optional fraction, and an offset.
-/

namespace ExprEngine.Time

namespace Timestamp

/-! ### Writing -/

/-- Four digits for the years 0 to 9999; any other year has a sign. -/
def yearText (year : Int) : String :=
  if 0 ≤ year ∧ year ≤ 9999 then Duration.padded 4 year.toNat
  else (if year < 0 then "-" else "+") ++ Duration.padded 4 year.natAbs

/-- No digits, milliseconds, microseconds or nanoseconds, whichever is exact first. -/
def fractionText (nanos : Nat) : String :=
  if nanos = 0 then ""
  else if nanos % 1000000 = 0 then "." ++ Duration.padded 3 (nanos / 1000000)
  else if nanos % 1000 = 0 then "." ++ Duration.padded 6 (nanos / 1000)
  else "." ++ Duration.padded 9 nanos

/-- The timestamp in universal time; a leap second is second 60. -/
def text (t : Timestamp) : String :=
  let date := Date.ofDays (t.seconds.fdiv perDay)
  let second := t.secondOfDay.toNat
  let leap := if t.inLeapSecond then 1 else 0
  yearText date.year ++ "-" ++ Duration.padded 2 date.month ++ "-" ++ Duration.padded 2 date.day
    ++ "T" ++ Duration.padded 2 (second / 3600) ++ ":" ++ Duration.padded 2 (second / 60 % 60)
    ++ ":" ++ Duration.padded 2 (second % 60 + leap)
    ++ fractionText (t.nanos - leap * perSecond) ++ "Z"

/-! ### Reading -/

def readDigits? (n : Nat) (cs : List Char) : Option (Nat × List Char) :=
  if cs.length < n then none else (Number.ofDigits? (cs.take n)).map (·, cs.drop n)

def readChar? (p : Char → Bool) : List Char → Option (List Char)
  | c :: rest => if p c then some rest else none
  | [] => none

/-- A fraction of a second in nanoseconds; digits after the ninth are dropped. -/
def readFraction? : List Char → Option (Nat × List Char)
  | '.' :: rest =>
    let (digits, rest) := rest.span Char.isDigit
    let kept := digits.take 9
    (Number.ofDigits? kept).map fun n => (n * Nat.pow 10 (9 - kept.length), rest)
  | rest => some (0, rest)

def readOffset? : List Char → Option (Int × List Char)
  | 'Z' :: rest => some (0, rest)
  | 'z' :: rest => some (0, rest)
  | c :: rest => do
    let sign : Int ← if c = '+' then some 1 else if c = '-' ∨ c = '−' then some (-1) else none
    let (hours, rest) ← readDigits? 2 rest
    let rest ← readChar? (· = ':') rest
    let (minutes, rest) ← readDigits? 2 rest
    if hours < 24 ∧ minutes < 60 then some (sign * (hours * 3600 + minutes * 60 : Nat), rest)
    else none
  | [] => none

def read? (s : String) : Option Timestamp := do
  let (year, cs) ← readDigits? 4 s.toList
  let cs ← readChar? (· = '-') cs
  let (month, cs) ← readDigits? 2 cs
  let cs ← readChar? (· = '-') cs
  let (day, cs) ← readDigits? 2 cs
  let cs ← readChar? (fun c => c = 'T' || c = 't' || c = ' ') cs
  let (hour, cs) ← readDigits? 2 cs
  let cs ← readChar? (· = ':') cs
  let (minute, cs) ← readDigits? 2 cs
  let cs ← readChar? (· = ':') cs
  let (second, cs) ← readDigits? 2 cs
  let (fraction, cs) ← readFraction? cs
  let (offset, cs) ← readOffset? cs
  let date : Date := ⟨year, month, day⟩
  if cs.isEmpty ∧ date.isValid ∧ hour < 24 ∧ minute < 60 ∧ second ≤ 60 then
    let leap := second = 60
    let clock : Int := (hour * 3600 + minute * 60 + (if leap then 59 else second) : Nat)
    some ⟨date.toDays * perDay + clock - offset, fraction + (if leap then perSecond else 0)⟩
  else none

end Timestamp

end ExprEngine.Time
