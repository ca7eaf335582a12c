import ExprEngine.Regex.Machine

/-!
# The size of a pattern

`Pattern.grow?` adds the machine of a pattern to one under way, and `Pattern.fits` says which
patterns are small enough. A pattern that stands for a few fixed texts needs no machine.
-/

namespace ExprEngine.Regex

open Text

namespace Pattern

/-! ### Machines of patterns -/

/-- Whether the last state of a pattern's machine is a fork, so that what follows is one more
way out of it. -/
def endsInFork (d : Direction) : Pattern → Bool
  | sequence a b => if d = .forward then b.endsInFork d else a.endsInFork d
  | times a least none => least ≠ 0 || a.minLength.any (0 < ·)
  | times a least (some most) => least = most && a.endsInFork d
  | group _ a => d = .backward && a.endsInFork d
  | _ => false

def onwardBytes (d : Direction) (p : Pattern) : Nat :=
  if p.endsInFork d then Machine.exitBytes else 0

def textBytes? (d : Direction) : Pattern → Option (List Nat)
  | literal cs =>
    let bytes := cs.flatMap fun c => bytesOf c.toNat
    some (if d = .forward then bytes else bytes.reverse)
  | _ => none

/-- Where a pattern stands: by itself, or among the branches of a choice after the first. -/
inductive Place where
  | alone
  | secondBranch
  | laterBranch
deriving DecidableEq, Inhabited

/-- The machine with that of a pattern added. The states that open and close a choice come after
its second branch. -/
def grow? (d : Direction) (p : Pattern) (place : Place) (m : Machine) : Option Machine :=
  let closed (m : Machine) : Option Machine :=
    match place with
    | .alone => some m
    | .secondBranch => m.grow? 2 (Machine.exitBytes + p.onwardBytes d)
    | .laterBranch => m.grow? 0 (Machine.exitBytes + p.onwardBytes d)
  match p with
  | empty | assertion _ => (m.grow? 1 0).bind closed
  | literal cs => (m.grow? (byteCount cs) 0).bind closed
  | charIn s => (classMachine? d s m).bind closed
  | sequence a b =>
    match d with
    | .forward => do
      let m ← (← a.grow? d .alone m).grow? 0 (a.onwardBytes d)
      closed (← b.grow? d .alone m)
    | .backward => do
      let m ← (← b.grow? d .alone m).grow? 0 (b.onwardBytes d)
      closed (← a.grow? d .alone m)
  | choice a b =>
    match place, (branches (choice a b)).mapM (textBytes? d) with
    | .alone, some texts =>
      (m.grow? 1 0).bind (textsMachine? texts.flatten.length.succ texts)
    | _, _ => do
      let m ← a.grow? d .alone m
      let m ← m.grow? (if place = .secondBranch then 2 else 0)
        (Machine.exitBytes + a.onwardBytes d)
      b.grow? d (if place = .alone then .secondBranch else .laterBranch) m
  | times a least most =>
    let onward := a.onwardBytes d
    let copies (n : Nat) (m : Machine) : Option Machine :=
      match n with
      | 0 => m.grow? 1 0
      | n + 1 => do
        let m ← a.grow? d .alone m
        Machine.repeat? (fun m => do (← a.grow? d .alone m).grow? 0 onward) n m
    match least, most with
    | 0, none => do
      if a.minLength.any (0 < ·) then
        let m ← a.grow? d .alone (← m.grow? 1 0)
        closed (← m.grow? 0 (Machine.exitBytes + onward))
      else
        let m ← a.grow? d .alone m
        closed (← m.grow? 3 (4 * Machine.exitBytes + onward))
    | 1, none => do
      let m ← a.grow? d .alone m
      closed (← m.grow? 1 (Machine.exitBytes + onward))
    | least, none => do
      let m ← a.grow? d .alone (← copies (least - 1) m)
      closed (← m.grow? 1 (Machine.exitBytes + 2 * onward))
    | 0, some 1 => do
      let m ← a.grow? d .alone (← m.grow? 1 0)
      closed (← m.grow? 1 (2 * Machine.exitBytes + onward))
    | least, some most => do
      let m ← copies least m
      if least = most then closed m
      else
        let m ← m.grow? 1 (if least = 0 then 0 else onward)
        let m ← Machine.repeat? (fun m => do
          let m ← a.grow? d .alone (← m.grow? 1 0)
          m.grow? 0 (2 * Machine.exitBytes + onward)) (most - least) m
        closed m
  | group _ a =>
    match d with
    | .forward => do
      let m ← a.grow? d .alone (← m.grow? 1 0)
      closed (← m.grow? 1 (a.onwardBytes d))
    | .backward => (a.grow? d .alone m).bind closed

/-- The machine that searches for a pattern. It skips what precedes a match, unless every match
is at the end of the text where it begins to read. -/
def machine? (d : Direction) (p : Pattern) : Option Machine := do
  let skip := match d with
    | .forward => !p.atTextStart
    | .backward => !p.atTextEnd
  let start : Machine := {}
  let m ← if skip then start.grow? 3 (Machine.stepBytes + 2 * Machine.exitBytes)
    else start.grow? 1 0
  match d with
  | .forward => do
    let m ← p.grow? d .alone (← m.grow? 1 0)
    m.grow? 2 (p.onwardBytes d)
  | .backward => do
    let m ← p.grow? d .alone m
    m.grow? 1 (p.onwardBytes d)

/-! ### Fixed texts -/

def fewTexts? (texts : List (List Char)) : Option (List (List Char)) :=
  if texts.length ≤ 250 ∧ texts.all (byteCount · ≤ 100) then some texts else none

def followedBy (xs ys : List (List Char)) : List (List Char) :=
  xs.flatMap fun x => ys.map (x ++ ·)

/-- The texts that a pattern stands for, if they are few and nothing else counts. -/
def fixedTexts? : Pattern → Option (List (List Char))
  | empty => some [[]]
  | literal cs => fewTexts? [cs]
  | charIn s => if s.count ≤ 10 then some (s.toList.map fun n => [Char.ofNat n]) else none
  | assertion _ | group _ _ => none
  | sequence a b => do
    let xs ← a.fixedTexts?
    if xs.isEmpty then some [] else fewTexts? (followedBy xs (← b.fixedTexts?))
  | choice a b => do fewTexts? ((← a.fixedTexts?) ++ (← b.fixedTexts?))
  | times a least most => do
    let xs ← a.fixedTexts?
    if xs.isEmpty then some (if least = 0 then [[]] else [])
    else if least = 0 ∧ most = some 1 then fewTexts? (xs ++ [[]])
    else if most = some least ∧ least ≤ 10 then
      (List.replicate least xs).foldlM (fun texts xs => fewTexts? (followedBy texts xs)) [[]]
    else none

def isDirect (p : Pattern) : Bool :=
  match p.fixedTexts? with
  | some texts => !texts.isEmpty && texts.all (!·.isEmpty)
  | none => false

def fits (p : Pattern) : Bool :=
  p.isDirect || ((p.machine? .forward).isSome && (p.machine? .backward).isSome)

end Pattern

end ExprEngine.Regex
