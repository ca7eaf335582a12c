import ExprEngine.Regex.Flags
import ExprEngine.Regex.Pattern
import ExprEngine.Regex.Property

/-!
# Escapes

What a backslash begins: a character that stands for itself or is given by its number, a
condition on a position, or a set of characters.
-/

namespace ExprEngine.Regex

open Text

/-! ### Blanks and comments -/

/-- The rest of the input after blanks and comments, where those do not count. -/
def skipBlanks (f : Flags) (cs : List Char) : List Char :=
  if f.verbose then skip false cs else cs
where
  skip (comment : Bool) : List Char → List Char
    | [] => []
    | c :: rest =>
      if comment then skip (c ≠ '\n') rest
      else if c = '#' then skip true rest
      else if blanks.containsChar c then skip false rest
      else c :: rest

def spanBrace? (f : Flags) (cs : List Char) : Option (List Char × List Char) :=
  span false cs
where
  span (comment : Bool) : List Char → Option (List Char × List Char)
    | [] => none
    | c :: rest =>
      if comment then span (c ≠ '\n') rest
      else if c = '\x7d' then some ([], rest)
      else if f.verbose ∧ c = '#' then span true rest
      else if f.verbose ∧ blanks.containsChar c then span false rest
      else (span false rest).map fun (inside, rest) => (c :: inside, rest)

/-! ### Characters by number -/

def hexValue? (c : Char) : Option Nat :=
  if c.isDigit then some (c.toNat - 48)
  else if 'a' ≤ c ∧ c ≤ 'f' then some (c.toNat - 87)
  else if 'A' ≤ c ∧ c ≤ 'F' then some (c.toNat - 55)
  else none

def ofHex? (digits : List Char) : Option Nat :=
  if digits.isEmpty then none
  else digits.foldlM (fun n c => (hexValue? c).map (16 * n + ·)) 0

def scalar? (n : Nat) : Option Nat := if n.isValidChar then some n else none

/-- What a single step of a pattern stands for. -/
inductive Atom where
  | literal (n : Nat)
  /-- A character given as a two-digit number, which may be meant as a byte. -/
  | byte (n : Nat)
  | assertion (a : Assertion)
  | digitClass (negated : Bool)
  | blankClass (negated : Bool)
  | wordClass (negated : Bool)
  | property (s : CodePoints) (negated : Bool)

def takeCounting? (f : Flags) : Nat → List Char → Option (List Char × List Char)
  | 0, cs => some ([], cs)
  | n + 1, cs =>
    match skipBlanks f cs with
    | [] => none
    | c :: rest => (takeCounting? f n rest).map fun (taken, rest) => (c :: taken, rest)

/-- Reads the digits of a numbered character: `width` of them, or any number in braces. -/
def readHex? (width : Nat) (f : Flags) (cs : List Char) : Option (Atom × List Char) :=
  match skipBlanks f cs with
  | '\x7b' :: rest => do
    let (digits, rest) ← spanBrace? f rest
    let n ← (ofHex? digits).bind scalar?
    some (.literal n, rest)
  | start => do
    let (digits, rest) ← takeCounting? f width start
    let n ← (ofHex? digits).bind scalar?
    some (if width = 2 then .byte n else .literal n, rest)

/-! ### Properties -/

def cutAt? (mark : List Char) : List Char → Option (List Char × List Char)
  | [] => none
  | c :: rest =>
    if mark.isPrefixOf (c :: rest) then some ([], (c :: rest).drop mark.length)
    else (cutAt? mark rest).map fun (before, after) => (c :: before, after)

def namedProperty? (name : List Char) : Option (CodePoints × Bool) :=
  let value (negated : Bool) (cut : List Char × List Char) : Option (CodePoints × Bool) :=
    (property? (some (String.ofList cut.1)) (String.ofList cut.2)).map (·, negated)
  match cutAt? ['!', '='] name, cutAt? [':'] name, cutAt? ['='] name with
  | some cut, _, _ => value true cut
  | none, some cut, _ => value false cut
  | none, none, some cut => value false cut
  | none, none, none => (property? none (String.ofList name)).map (·, false)

/-- Reads the name of a property: one letter, or a name in braces. -/
def readProperty? (negated : Bool) (f : Flags) (cs : List Char) : Option (Atom × List Char) :=
  match skipBlanks f cs with
  | '\x7b' :: rest => do
    let (name, rest) ← spanBrace? f rest
    let (s, flipped) ← namedProperty? name
    some (.property s (negated != flipped), rest)
  | '\\' :: _ => none
  | c :: rest => (property? none c.toString).map fun s => (.property s negated, rest)
  | [] => none

/-! ### Word boundaries -/

def boundary? (name : List Char) : Option (Bool → Assertion) :=
  match String.ofList name with
  | "start" => some .wordStart
  | "end" => some .wordEnd
  | "start-half" => some .wordStartHalf
  | "end-half" => some .wordEndHalf
  | _ => none

/-- Reads what follows `\b`: a name in braces, unless the braces hold a count. -/
def readBoundary? (f : Flags) (cs : List Char) : Option (Atom × List Char) :=
  let plain : Atom := .assertion (.wordBoundary !f.unicode)
  match cs with
  | '\x7b' :: rest =>
    match skipBlanks f rest with
    | [] => none
    | c :: _ =>
      if c.isAlpha || c = '-' then do
        let (name, rest) ← spanBrace? f rest
        let kind ← boundary? name
        some (.assertion (kind !f.unicode), rest)
      else some (plain, '\x7b' :: rest)
  | rest => some (plain, rest)

/-! ### All escapes -/

def isMeta (c : Char) : Bool := "\\.+*?()|[]\x7b\x7d^$#&-~".toList.contains c

def isEscapable (c : Char) : Bool :=
  isMeta c || (c.toNat < 128 && !c.isAlphanum && c ≠ '<' && c ≠ '>')

def readEscape? (f : Flags) : List Char → Option (Atom × List Char)
  | [] => none
  | c :: rest =>
    let ascii := !f.unicode
    match c with
    | 'x' => readHex? 2 f rest
    | 'u' => readHex? 4 f rest
    | 'U' => readHex? 8 f rest
    | 'p' => if f.unicode then readProperty? false f rest else none
    | 'P' => if f.unicode then readProperty? true f rest else none
    | 'd' => some (.digitClass false, rest)
    | 'D' => some (.digitClass true, rest)
    | 's' => some (.blankClass false, rest)
    | 'S' => some (.blankClass true, rest)
    | 'w' => some (.wordClass false, rest)
    | 'W' => some (.wordClass true, rest)
    | 'a' => some (.literal 7, rest)
    | 'f' => some (.literal 12, rest)
    | 't' => some (.literal 9, rest)
    | 'n' => some (.literal 10, rest)
    | 'r' => some (.literal 13, rest)
    | 'v' => some (.literal 11, rest)
    | 'A' => some (.assertion .textStart, rest)
    | 'z' => some (.assertion .textEnd, rest)
    | 'b' => readBoundary? f rest
    | 'B' => some (.assertion (.noWordBoundary ascii), rest)
    | '<' => some (.assertion (.wordStart ascii), rest)
    | '>' => some (.assertion (.wordEnd ascii), rest)
    | c => if isEscapable c then some (.literal c.toNat, rest) else none

end ExprEngine.Regex
