/-!
# Flags of patterns

Switches that a pattern may set for the rest of a group or for a group of its own.
-/

namespace ExprEngine.Regex

structure Flags where
  anyCase : Bool := false
  multiLine : Bool := false
  dotAll : Bool := false
  lazyFirst : Bool := false
  unicode : Bool := true
  anyLineEnd : Bool := false
  verbose : Bool := false
deriving DecidableEq, Inhabited

namespace Flags

def set? (f : Flags) (letter : Char) (on : Bool) : Option Flags :=
  match letter with
  | 'i' => some { f with anyCase := on }
  | 'm' => some { f with multiLine := on }
  | 's' => some { f with dotAll := on }
  | 'U' => some { f with lazyFirst := on }
  | 'u' => some { f with unicode := on }
  | 'R' => some { f with anyLineEnd := on }
  | 'x' => some { f with verbose := on }
  | _ => none

/-- Reads letters up to a colon or a closing parenthesis, which stays in the rest. A letter and
the minus that turns the letters after it off occur at most once, and a minus is not last. -/
def read? (f : Flags) (seen : List Char) : List Char → Option (Flags × List Char × List Char)
  | [] => none
  | c :: rest =>
    if c = ':' ∨ c = ')' then
      if seen.head? = some '-' then none else some (f, seen, c :: rest)
    else if c ∈ seen then none
    else if c = '-' then read? f ('-' :: seen) rest
    else match f.set? c ('-' ∉ seen) with
      | some f => read? f (c :: seen) rest
      | none => none

end Flags

end ExprEngine.Regex
