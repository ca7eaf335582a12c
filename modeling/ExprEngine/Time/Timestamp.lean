import ExprEngine.Time.Calendar
import ExprEngine.Time.Duration

/-!
# Timestamps

A timestamp counts seconds from the beginning of 1970 and nanoseconds within the second. A leap
second has no number of its own: it is the second before with `10 ^ 9` nanoseconds or more.
-/

namespace ExprEngine.Time

structure Timestamp where
  seconds : Int
  nanos : Nat
deriving DecidableEq, Inhabited

namespace Timestamp

def perSecond : Nat := 1000000000

def perDay : Int := 86400

/-- The first second of the year -262143. -/
def earliest : Int := -8334601228800

/-- The last second of the year 262142. -/
def latest : Int := 8210266876799

def ofSeconds? (seconds : Int) (nanos : Nat) : Option Timestamp :=
  if earliest ≤ seconds ∧ seconds ≤ latest then some ⟨seconds, nanos⟩ else none

def inLeapSecond (t : Timestamp) : Bool := perSecond ≤ t.nanos

def compare (a b : Timestamp) : Ordering :=
  (Ord.compare a.seconds b.seconds).then (Ord.compare a.nanos b.nanos)

/-- `t` moved by `d`. Within a leap second the fraction moves alone; a move that leaves it counts
the leap second as passed when it goes back, and as not yet there when it goes on. -/
def add? (t : Timestamp) (d : Duration) : Option Timestamp :=
  let whole := d.seconds
  let part := d.subsecond
  let leavesForward := 0 < whole ∨ (0 < part ∧ 2 * (perSecond : Int) ≤ t.nanos + part)
  if t.inLeapSecond && !leavesForward && !(whole < 0) then
    some ⟨t.seconds, (t.nanos + part).toNat⟩
  else
    let base : Int := if t.inLeapSecond && !leavesForward then t.seconds + 1 else t.seconds
    let nanos : Int := if t.inLeapSecond then t.nanos - perSecond else t.nanos
    let total := (base + whole) * perSecond + nanos + part
    ofSeconds? (total.fdiv perSecond) (total.fmod perSecond).toNat

def sub? (t : Timestamp) (d : Duration) : Option Timestamp := t.add? ⟨-d.nanos⟩

def secondOfDay (t : Timestamp) : Int := t.seconds.fmod perDay

/-- The time from `b` to `a`. A leap second between the two times of day counts as a second. -/
def since (a b : Timestamp) : Duration :=
  let leap : Int :=
    if b.secondOfDay < a.secondOfDay then (if b.inLeapSecond then 1 else 0)
    else if a.secondOfDay < b.secondOfDay then (if a.inLeapSecond then -1 else 0)
    else 0
  ⟨(a.seconds - b.seconds + leap) * perSecond + a.nanos - b.nanos⟩

/-! ### Fields -/

inductive Field where
  | year
  | month
  | dayOfYear
  | date
  | dayOfMonth
  | dayOfWeek
  | hours
  | minutes
  | seconds
  | milliseconds
deriving DecidableEq, Inhabited

namespace Field

def names : List (String × Field) :=
  [("getFullYear", year), ("getMonth", month), ("getDayOfYear", dayOfYear), ("getDate", date),
   ("getDayOfMonth", dayOfMonth), ("getDayOfWeek", dayOfWeek), ("getHours", hours),
   ("getMinutes", minutes), ("getSeconds", seconds), ("getMilliseconds", milliseconds)]

def ofName? (name : String) : Option Field := names.lookup name

end Field

/-- The field of `t` on a clock `offset` seconds ahead. -/
def field (t : Timestamp) (offset : Int) (f : Field) : Int :=
  let clock := t.seconds + offset
  let days := clock.fdiv perDay
  let second := clock.fmod perDay
  let date := Date.ofDays days
  match f with
  | .year => date.year
  | .month => date.month - 1
  | .dayOfYear => date.ordinal
  | .date => date.day
  | .dayOfMonth => date.day - 1
  | .dayOfWeek => weekday days
  | .hours => second / 3600
  | .minutes => second / 60 % 60
  | .seconds => second % 60
  | .milliseconds => (t.nanos / 1000000 : Nat)

end Timestamp

end ExprEngine.Time
