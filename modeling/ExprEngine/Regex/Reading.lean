import ExprEngine.Number.Checked
import ExprEngine.Regex.Bracket
import ExprEngine.Regex.Size

/-!
# Reading patterns

The text of a pattern, read from left to right. There are no references back and no looking
around, so a pattern is a regular expression; what it writes wrongly has no reading, and neither
has what it nests too deeply or what grows too large.
-/

namespace ExprEngine.Regex

open Text

/-! ### Single steps -/

def dot? (f : Flags) : Option CodePoints :=
  if !f.unicode then none
  else if f.dotAll then some .all
  else if f.anyLineEnd then some (.complement (.single 10 ∪ .single 13))
  else some (.complement (.single 10))

def lineStart (f : Flags) : Assertion :=
  if !f.multiLine then .textStart else if f.anyLineEnd then .anyLineStart else .lineStart

def lineEnd (f : Flags) : Assertion :=
  if !f.multiLine then .textEnd else if f.anyLineEnd then .anyLineEnd else .lineEnd

def characterPattern (f : Flags) (n : Nat) : Pattern :=
  if !f.anyCase then .ofClass (.single n)
  else if f.unicode then .ofClass (.ofPoints (caseVariants n))
  else .ofClass (CodePoints.single n).anyAsciiCase

def Atom.pattern? (f : Flags) : Atom → Option Pattern
  | assertion a => some (.assertion a)
  | literal n => some (characterPattern f n)
  | byte n => if f.unicode ∨ n < 128 then some (characterPattern f n) else none
  | a => (a.class? f).map .ofClass

/-! ### Repetitions -/

/-- The digits that begin the input, and what follows them; blanks and comments do not count
where they count nowhere. -/
def spanDigits (f : Flags) (comment : Bool) : List Char → List Char × List Char
  | [] => ([], [])
  | c :: rest =>
    if comment then spanDigits f (c ≠ '\n') rest
    else if c.isDigit then
      let (digits, rest) := spanDigits f false rest
      (c :: digits, rest)
    else if f.verbose ∧ c = '#' then spanDigits f true rest
    else if f.verbose ∧ blanks.containsChar c then spanDigits f false rest
    else ([], c :: rest)

def readCount? (f : Flags) (cs : List Char) : Option (Option Nat × List Char) :=
  let (digits, rest) := spanDigits f false (cs.dropWhile blanks.containsChar)
  let rest := skipBlanks f (rest.dropWhile blanks.containsChar)
  if digits.isEmpty then some (none, rest)
  else (Number.ofDigits? digits).bind fun n => if n < 0x100000000 then some (some n, rest) else none

def readCounts? (f : Flags) (cs : List Char) : Option ((Nat × Option Nat) × List Char) := do
  let (least, rest) ← readCount? f (skipBlanks f cs)
  let least ← least
  match rest with
  | '\x7d' :: rest => some ((least, some least), rest)
  | ',' :: rest =>
    match skipBlanks f rest with
    | '\x7d' :: rest => some ((least, none), rest)
    | rest =>
      let (most, rest) ← readCount? f rest
      let most ← most
      match rest with
      | '\x7d' :: rest => if most < least then none else some ((least, some most), rest)
      | _ => none
  | _ => none

def skipLazy : List Char → List Char
  | '?' :: rest => rest
  | rest => rest

/-! ### Groups -/

structure ReadPattern where
  pattern : Pattern
  depth : Nat := 0

/-- What a branch holds; a change of flags cannot be repeated. -/
inductive Item where
  | pattern (p : ReadPattern)
  | flags

namespace Item

def pattern? : Item → Option Pattern
  | pattern p => some p.pattern
  | flags => none

def depth : Item → Nat
  | pattern p => p.depth
  | flags => 0

end Item

/-- What several things are nested to; a single one counts by itself. -/
def depthOf (depths : List Nat) : Nat :=
  let deepest := depths.foldl max 0
  if depths.length < 2 then deepest else deepest + 1

def branch (items : List Item) : ReadPattern where
  pattern := .inOrder (items.reverse.filterMap Item.pattern?)
  depth := depthOf (items.map Item.depth)

def choices : List ReadPattern → ReadPattern
  | [p] => p
  | ps => ⟨.oneOf (ps.reverse.map ReadPattern.pattern), depthOf (ps.map ReadPattern.depth)⟩

def isNameChar (first : Bool) (c : Char) : Bool :=
  c = '_' || alphabetic.containsChar c ||
    (!first && (c ∈ ['.', '[', ']'] || (Category.pointsOf Category.numbers).containsChar c))

/-- The groups with a number so far, last first, each with its name if it has one. -/
abbrev Groups := List (Option String)

def readName? (groups : Groups) (cs : List Char) : Option (String × List Char) :=
  let (name, rest) := cs.span (· ≠ '>')
  match name, rest with
  | c :: more, _ :: rest =>
    let name := String.ofList (c :: more)
    if isNameChar true c && more.all (isNameChar false) && some name ∉ groups then some (name, rest)
    else none
  | _, _ => none

/-- What follows an opening parenthesis: a group with a number and perhaps a name, a group with
flags of its own, or a change of flags. -/
inductive Opening where
  | numbered (name : Option String)
  | plain (f : Flags)
  | flags (f : Flags)

def readOpening? (f : Flags) (groups : Groups) (cs : List Char) : Option (Opening × List Char) :=
  let named (rest : List Char) : Option (Opening × List Char) :=
    (readName? groups rest).map fun (name, rest) => (.numbered (some name), rest)
  match skipBlanks f cs with
  | '?' :: '=' :: _ => none
  | '?' :: '!' :: _ => none
  | '?' :: '<' :: '=' :: _ => none
  | '?' :: '<' :: '!' :: _ => none
  | '?' :: 'P' :: '<' :: rest => named rest
  | '?' :: '<' :: rest => named rest
  | '?' :: rest =>
    match f.read? [] rest with
    | some (f, _, ':' :: rest) => some (.plain f, rest)
    | some (f, seen, _ :: rest) => if seen.isEmpty then none else some (.flags f, rest)
    | _ => none
  | rest => some (.numbered none, rest)

/-- A group under way: its flags, its finished branches and the items of the current one. -/
structure OpenGroup where
  flags : Flags := {}
  branches : List ReadPattern := []
  items : List Item := []

namespace OpenGroup

def close (g : OpenGroup) : ReadPattern := choices (branch g.items :: g.branches)

def add (g : OpenGroup) (p : ReadPattern) : OpenGroup := { g with items := .pattern p :: g.items }

def repeatLast? (g : OpenGroup) (least : Nat) (most : Option Nat) : Option OpenGroup :=
  match g.items with
  | .pattern p :: before =>
    some { g with items := .pattern ⟨.repeated p.pattern least most, p.depth + 1⟩ :: before }
  | _ => none

end OpenGroup

/-- Reads a group up to its closing parenthesis or the end; `groups` are those before it. -/
def readGroup? : Nat → Groups → OpenGroup → List Char → Option ((ReadPattern × Groups) × List Char)
  | 0, _, _, _ => none
  | fuel + 1, groups, g, cs =>
    let f := g.flags
    let add (p : Option Pattern) (rest : List Char) : Option ((ReadPattern × Groups) × List Char) :=
      p.bind fun p => readGroup? fuel groups (g.add { pattern := p }) rest
    let again (least : Nat) (most : Option Nat) (rest : List Char) :
        Option ((ReadPattern × Groups) × List Char) :=
      (g.repeatLast? least most).bind fun g => readGroup? fuel groups g (skipLazy rest)
    match skipBlanks f cs with
    | [] => some ((g.close, groups), [])
    | ')' :: rest => some ((g.close, groups), ')' :: rest)
    | '|' :: rest =>
      readGroup? fuel groups { g with branches := branch g.items :: g.branches, items := [] } rest
    | '(' :: rest =>
      (readOpening? f groups rest).bind fun (opening, rest) =>
        match opening with
        | .flags f => readGroup? fuel groups { g with flags := f, items := .flags :: g.items } rest
        | .numbered name =>
          (readGroup? fuel (name :: groups) { flags := f } rest).bind
            fun ((p, inner), rest) =>
              match rest with
              | ')' :: rest =>
                let p : ReadPattern := ⟨.group (groups.length + 1) p.pattern, p.depth + 1⟩
                readGroup? fuel inner (g.add p) rest
              | _ => none
        | .plain inner =>
          (readGroup? fuel groups { flags := inner } rest).bind
            fun ((p, groups), rest) =>
              match rest with
              | ')' :: rest => readGroup? fuel groups (g.add { p with depth := p.depth + 1 }) rest
              | _ => none
    | '[' :: rest =>
      (readClass? f (2 * rest.length + 2) rest).bind fun (c, rest) =>
        readGroup? fuel groups (g.add ⟨.ofClass c.points, c.depth⟩) rest
    | '*' :: rest => again 0 none rest
    | '+' :: rest => again 1 none rest
    | '?' :: rest => again 0 (some 1) rest
    | '\x7b' :: rest =>
      (readCounts? f rest).bind fun ((least, most), rest) => again least most (skipBlanks f rest)
    | '.' :: rest => add ((dot? f).map .ofClass) rest
    | '^' :: rest => add (some (.assertion (lineStart f))) rest
    | '$' :: rest => add (some (.assertion (lineEnd f))) rest
    | '\\' :: rest => (readEscape? f rest).bind fun (a, rest) => add (a.pattern? f) rest
    | c :: rest => add (some (characterPattern f c.toNat)) rest

/-! ### Patterns -/

namespace Pattern

def depthLimit : Nat := 250

/-- The pattern that a text writes, if it writes one within the limits. -/
def read? (s : String) : Option Pattern :=
  let cs := s.toList
  match readGroup? (cs.length + 1) [] {} cs with
  | some ((p, _), []) => if p.depth ≤ depthLimit && p.pattern.fits then some p.pattern else none
  | _ => none

end Pattern

end ExprEngine.Regex
