import ExprEngine.Number.Checked
import ExprEngine.Value.Basic

/-!
# Arithmetic

Operations on two numbers of one type, on texts and lists, and on times. A result outside its
type is an overflow, and operands that do not go together have no overload.
-/

namespace ExprEngine.Value

open Number Time

def integerOverflow : Value := failure .overflow "integer overflow"

def unsignedOverflow : Value := failure .overflow "unsigned integer overflow"

def durationOverflow : Value := failure .overflow "duration overflow"

def timestampOverflow : Value := failure .overflow "timestamp overflow"

def ofSigned (i : Option Int64) : Value := (i.map int).getD integerOverflow

def ofUnsigned (u : Option UInt64) : Value := (u.map uint).getD unsignedOverflow

def ofDuration (d : Option Duration) : Value := (d.map duration).getD durationOverflow

def ofTimestamp (t : Option Timestamp) : Value := (t.map timestamp).getD timestampOverflow

def add (a b : Value) : Value :=
  strict [a, b] <|
    match a, b with
    | int a, int b => ofSigned (signed? (a.toInt + b.toInt))
    | uint a, uint b => ofUnsigned (unsigned? (a.toNat + b.toNat))
    | double a, double b => double (a.add b)
    | string a, string b => string (a ++ b)
    | bytes a, bytes b => bytes (a ++ b)
    | list a, list b => list (a ++ b)
    | duration a, duration b => ofDuration (a.add? b)
    | timestamp t, duration d => ofTimestamp (t.add? d)
    | duration d, timestamp t => ofTimestamp (t.add? d)
    | a, b => noSuchOverload "_+_" [a, b]

def subtract (a b : Value) : Value :=
  strict [a, b] <|
    match a, b with
    | int a, int b => ofSigned (signed? (a.toInt - b.toInt))
    | uint a, uint b => ofUnsigned (unsigned? (a.toNat - b.toNat : Int))
    | double a, double b => double (a.sub b)
    | duration a, duration b => ofDuration (a.sub? b)
    | timestamp a, timestamp b => duration (a.since b)
    | timestamp t, duration d => ofTimestamp (t.sub? d)
    | a, b => noSuchOverload "_-_" [a, b]

def multiply (a b : Value) : Value :=
  strict [a, b] <|
    match a, b with
    | int a, int b => ofSigned (signed? (a.toInt * b.toInt))
    | uint a, uint b => ofUnsigned (unsigned? (a.toNat * b.toNat))
    | double a, double b => double (a.mul b)
    | a, b => noSuchOverload "_*_" [a, b]

def divide (a b : Value) : Value :=
  strict [a, b] <|
    match a, b with
    | int a, int b =>
      if b = 0 then failure .divideByZero "divide by zero" else ofSigned (signedQuotient? a b)
    | uint a, uint b => if b = 0 then failure .divideByZero "divide by zero" else uint (a / b)
    | double a, double b => double (a.div b)
    | a, b => noSuchOverload "_/_" [a, b]

def modulo (a b : Value) : Value :=
  strict [a, b] <|
    match a, b with
    | int a, int b =>
      if b = 0 then failure .divideByZero "modulus by zero" else ofSigned (signedRemainder? a b)
    | uint a, uint b => if b = 0 then failure .divideByZero "modulus by zero" else uint (a % b)
    | a, b => noSuchOverload "_%_" [a, b]

def negate (a : Value) : Value :=
  strict [a] <|
    match a with
    | int a => ofSigned (signed? (-a.toInt))
    | double a => double a.neg
    | duration a => ofDuration (Duration.zero.sub? a)
    | a => noSuchOverload "-_" [a]

def logicalNot (a : Value) : Value :=
  strict [a] <|
    match a with
    | bool a => bool !a
    | a => noSuchOverload "!_" [a]

end ExprEngine.Value
