import ExprEngine.Regex.Escape
import ExprEngine.Text.Folding

/-!
# Bracketed classes

Sets of characters between brackets: characters, ranges, escapes, named classes and classes in
turn, joined or set against each other. A class that is read comes with the depth to which
brackets and operations are nested in it.
-/

namespace ExprEngine.Regex

open Text

/-! ### Sets under flags -/

/-- A set that the flags may widen to both cases. Without Unicode only ASCII has cases. -/
def cased (f : Flags) (s : CodePoints) : CodePoints :=
  if !f.anyCase then s else if f.unicode then s.anyCase else s.anyAsciiCase

/-- The complement of a set, if it is asked for. Without Unicode there is none, because it would
hold bytes that are no characters. -/
def negatedIf? (f : Flags) (negated : Bool) (s : CodePoints) : Option CodePoints :=
  if !negated then some s else if f.unicode then some s.complement else none

def namedClass? (name : String) : Option CodePoints :=
  match name with
  | "alnum" => some ⟨[(48, 58), (65, 91), (97, 123)]⟩
  | "alpha" => some ⟨[(65, 91), (97, 123)]⟩
  | "ascii" => some ⟨[(0, 128)]⟩
  | "blank" => some ⟨[(9, 10), (32, 33)]⟩
  | "cntrl" => some ⟨[(0, 32), (127, 128)]⟩
  | "digit" => some ⟨[(48, 58)]⟩
  | "graph" => some ⟨[(33, 127)]⟩
  | "lower" => some ⟨[(97, 123)]⟩
  | "print" => some ⟨[(32, 127)]⟩
  | "punct" => some ⟨[(33, 48), (58, 65), (91, 97), (123, 127)]⟩
  | "space" => some ⟨[(9, 14), (32, 33)]⟩
  | "upper" => some ⟨[(65, 91)]⟩
  | "word" => some ⟨[(48, 58), (65, 91), (95, 96), (97, 123)]⟩
  | "xdigit" => some ⟨[(48, 58), (65, 71), (97, 103)]⟩
  | _ => none

/-- A class of all of Unicode, or the named class of ASCII that stands in for it. -/
def unicodeOr (f : Flags) (s : CodePoints) (name : String) : CodePoints :=
  if f.unicode then s else (namedClass? name).getD .empty

def Atom.class? (f : Flags) : Atom → Option CodePoints
  | literal n | byte n => if f.unicode ∨ n < 128 then some (.single n) else none
  | digitClass negated => negatedIf? f negated (unicodeOr f digits "digit")
  | blankClass negated => negatedIf? f negated (unicodeOr f blanks "space")
  | wordClass negated => negatedIf? f negated (unicodeOr f wordCharacters "word")
  | property s negated => negatedIf? f negated (cased f s)
  | assertion _ => none

/-- The character that an atom is, if it may begin or end a range. -/
def Atom.bound? (f : Flags) : Atom → Option Nat
  | literal n | byte n => if f.unicode ∨ n < 128 then some n else none
  | _ => none

/-! ### Classes under way -/

structure ReadClass where
  points : CodePoints
  depth : Nat := 0

inductive ClassOperation where
  | intersection
  | difference
  | exclusive
deriving DecidableEq

def ClassOperation.combine : ClassOperation → CodePoints → CodePoints → CodePoints
  | intersection, a, b => a ∩ b
  | difference, a, b => a \ b
  | exclusive, a, b => a.exclusive b

structure OpenClass where
  items : List ReadClass := []
  waiting : Option (ClassOperation × ReadClass) := none

namespace OpenClass

def add (o : OpenClass) (c : ReadClass) : OpenClass := { o with items := c :: o.items }

def addPoints (o : OpenClass) (s : CodePoints) : OpenClass := o.add { points := s }

/-- The items together; several are nested one deeper than the deepest. -/
def joined (o : OpenClass) : ReadClass :=
  let deepest := (o.items.map ReadClass.depth).foldl max 0
  { points := .join (o.items.reverse.map ReadClass.points),
    depth := if o.items.length < 2 then deepest else deepest + 1 }

def close (f : Flags) (o : OpenClass) : ReadClass :=
  match o.waiting with
  | some (op, left) =>
    let right := o.joined
    { points := op.combine (cased f left.points) (cased f right.points),
      depth := max left.depth right.depth + 1 }
  | none => o.joined

def operate (f : Flags) (o : OpenClass) (op : ClassOperation) : OpenClass :=
  { waiting := some (op, o.close f) }

end OpenClass

/-! ### Reading -/

def readNamedClass? (f : Flags) : List Char → Option (Option CodePoints × List Char)
  | ':' :: rest =>
    let (negated, rest) : Bool × List Char := match rest with
      | '^' :: rest => (true, rest)
      | rest => (false, rest)
    let (name, rest) := rest.span (· ≠ ':')
    match rest, namedClass? (String.ofList name) with
    | ':' :: ']' :: rest, some s => some (negatedIf? f negated (cased f s), rest)
    | _, _ => none
  | _ => none

def readClassAtom? (f : Flags) : List Char → Option (Atom × List Char)
  | [] => none
  | '\\' :: rest => readEscape? f rest
  | c :: rest => some (.literal c.toNat, rest)

/-- The character after a hyphen that tells whether the hyphen makes a range. Blanks before it do
not count where blanks count nowhere, and neither does the mark of a comment. -/
def afterHyphen (f : Flags) (cs : List Char) : Option Char :=
  if !f.verbose then cs.head?
  else
    let next := match cs.dropWhile blanks.containsChar with
      | '#' :: rest => rest.dropWhile blanks.containsChar
      | rest => rest
    next.head?.or cs.head?

/-- Reads a character, an escape or a range. A hyphen before the end or before another hyphen
makes no range. -/
def readClassItem? (f : Flags) (cs : List Char) : Option (CodePoints × List Char) := do
  let (first, rest) ← readClassAtom? f cs
  match skipBlanks f rest with
  | [] => none
  | '-' :: after =>
    if afterHyphen f after ∈ [some ']', some '-'] then
      (first.class? f).map (·, '-' :: after)
    else do
      let (last, rest) ← readClassAtom? f (skipBlanks f after)
      let low ← first.bound? f
      let high ← last.bound? f
      if high < low then none else some (.range low high, rest)
  | rest => (first.class? f).map (·, rest)

/-- Reads the hyphens that begin a class, or the bracket that does, as characters. -/
def readClassHead (f : Flags) (cs : List Char) : OpenClass × List Char :=
  let (o, rest) := hyphens {} cs.length (skipBlanks f cs)
  match rest with
  | ']' :: rest => if o.items.isEmpty then (o.addPoints (.single 93), rest) else (o, ']' :: rest)
  | rest => (o, rest)
where
  hyphens (o : OpenClass) : Nat → List Char → OpenClass × List Char
    | fuel + 1, '-' :: rest => hyphens (o.addPoints (.single 45)) fuel (skipBlanks f rest)
    | _, rest => (o, rest)

def readClass? (f : Flags) : Nat → List Char → Option (ReadClass × List Char)
  | 0, _ => none
  | fuel + 1, cs => do
    let (negated, cs) : Bool × List Char := match skipBlanks f cs with
      | '^' :: rest => (true, rest)
      | cs => (false, cs)
    let (start, rest) := readClassHead f cs
    let (c, rest) ← items fuel start rest
    let points ← negatedIf? f negated (cased f c.points)
    some ({ points, depth := c.depth + 1 }, rest)
where
  items (fuel : Nat) (o : OpenClass) (cs : List Char) : Option (ReadClass × List Char) :=
    match fuel with
    | 0 => none
    | fuel + 1 =>
      match skipBlanks f cs with
      | [] => none
      | ']' :: rest => some (o.close f, rest)
      | '&' :: '&' :: rest => items fuel (o.operate f .intersection) rest
      | '-' :: '-' :: rest => items fuel (o.operate f .difference) rest
      | '~' :: '~' :: rest => items fuel (o.operate f .exclusive) rest
      | '[' :: rest =>
        match readNamedClass? f rest with
        | some (s, rest) => s.bind fun s => items fuel (o.addPoints s) rest
        | none => readClass? f fuel rest >>= fun (c, rest) => items fuel (o.add c) rest
      | cs => readClassItem? f cs >>= fun (s, rest) => items fuel (o.addPoints s) rest

end ExprEngine.Regex
