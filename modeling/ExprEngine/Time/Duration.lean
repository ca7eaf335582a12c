import ExprEngine.Number.Checked
import ExprEngine.Text.Class

/-!
# Durations

A duration is a signed number of nanoseconds, at most `2 ^ 63 - 1` milliseconds either way. Its
text gives seconds with a fraction; reading accepts a sum of numbers with units.
-/

namespace ExprEngine.Time

structure Duration where
  nanos : Int
deriving DecidableEq, Inhabited

namespace Duration

def perSecond : Int := 1000000000

/-- The longest duration, in nanoseconds. -/
def limit : Int := 0x7fffffffffffffff * 1000000

def ofNanos? (n : Int) : Option Duration := if -limit ≤ n ∧ n ≤ limit then some ⟨n⟩ else none

def zero : Duration := ⟨0⟩

def add? (a b : Duration) : Option Duration := ofNanos? (a.nanos + b.nanos)

def sub? (a b : Duration) : Option Duration := ofNanos? (a.nanos - b.nanos)

def seconds (d : Duration) : Int := d.nanos.tdiv perSecond

def subsecond (d : Duration) : Int := d.nanos.tmod perSecond

def hours (d : Duration) : Int := d.seconds.tdiv 3600

def minutes (d : Duration) : Int := d.seconds.tdiv 60

def milliseconds (d : Duration) : Int := d.nanos.tdiv 1000000

/-! ### Text -/

def padded (width n : Nat) : String :=
  let digits := Nat.toDigits 10 n
  String.ofList (List.replicate (width - digits.length) '0' ++ digits)

/-- A fraction of a second in nanoseconds, without the zeros at its end. -/
def fractionDigits (n : Nat) : String :=
  String.ofList ((padded 9 n).toList.reverse.dropWhile (· = '0')).reverse

def text (d : Duration) : String :=
  if d.subsecond = 0 then toString d.seconds ++ "s"
  else (if d.nanos < 0 then "-" else "") ++ toString d.seconds.natAbs ++ "."
    ++ fractionDigits d.subsecond.natAbs ++ "s"

/-! ### Reading -/

/-- Why a text is no duration. A fraction is cut after 18 bytes, and the cut may fall inside a
character. -/
inductive Fault where
  | malformed
  | splitCharacter
deriving DecidableEq, Inhabited

def readUnit? : List Char → Option (Nat × List Char)
  | 'n' :: 's' :: rest => some (1, rest)
  | 'u' :: 's' :: rest => some (1000, rest)
  | 'µ' :: 's' :: rest => some (1000, rest)
  | 'm' :: 's' :: rest => some (1000000, rest)
  | 's' :: rest => some (1000000000, rest)
  | 'm' :: rest => some (60000000000, rest)
  | 'h' :: rest => some (3600000000000, rest)
  | _ => none

structure Part where
  whole : List Char
  fraction : List Char
  unit : Nat

/-- The part that begins `cs`, and the rest. Digits of every script begin a part, though only
ASCII digits have a value. -/
def readPart? (cs : List Char) : Option (Part × List Char) :=
  let (whole, rest) := cs.span Text.isDigit
  match rest with
  | '.' :: rest =>
    let (fraction, rest) := rest.span Text.isDigit
    if whole.isEmpty && fraction.isEmpty then none
    else (readUnit? rest).map fun (unit, rest) => (⟨whole, fraction, unit⟩, rest)
  | rest =>
    if whole.isEmpty then none
    else (readUnit? rest).map fun (unit, rest) => (⟨whole, [], unit⟩, rest)

/-- The first `n` bytes of `cs`, or all when there are fewer; `none` when the cut falls inside a
character. -/
def takeBytes : Nat → List Char → Option (List Char)
  | _, [] => some []
  | n, c :: cs =>
    if n = 0 then some []
    else if c.utf8Size ≤ n then (takeBytes (n - c.utf8Size) cs).map (c :: ·)
    else none

def sumLimit : Nat := Nat.pow 2 127

def bounded (n : Nat) : Except Fault Nat := if n < sumLimit then .ok n else .error .malformed

def digitsValue (digits : List Char) : Except Fault Nat :=
  if digits.isEmpty then .ok 0
  else match Number.ofDigits? digits with
    | some n => bounded n
    | none => .error .malformed

/-- The nanoseconds of a part added to `sum`; what is below a nanosecond is dropped. -/
def Part.addTo (p : Part) (sum : Nat) : Except Fault Nat := do
  let whole ← digitsValue p.whole
  let sum ← bounded (sum + (← bounded (whole * p.unit)))
  match takeBytes 18 p.fraction with
  | none => .error .splitCharacter
  | some digits =>
    let n ← digitsValue digits
    bounded (sum + n * p.unit / Nat.pow 10 digits.length)

/-- Adds up the parts of `cs`; `fuel` is at least their number. -/
def sumParts : Nat → List Char → Nat → Except Fault Nat
  | _, [], sum => .ok sum
  | 0, _, _ => .error .malformed
  | fuel + 1, cs, sum =>
    match readPart? cs with
    | none => .error .malformed
    | some (p, rest) => p.addTo sum >>= sumParts fuel rest

def readBody (cs : List Char) : Except Fault Nat :=
  if cs.isEmpty then .error .malformed
  else if cs = ['0'] then .ok 0
  else sumParts cs.length cs 0

def read (s : String) : Except Fault Duration := do
  let n : Int ← match s.toList with
    | '-' :: body => (readBody body).map fun n => -(n : Int)
    | '+' :: body => (readBody body).map Int.ofNat
    | body => (readBody body).map Int.ofNat
  if (Number.signed? n).isSome then .ok ⟨n⟩ else .error .malformed

end Duration

end ExprEngine.Time
