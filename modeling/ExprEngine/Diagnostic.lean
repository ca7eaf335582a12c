import ExprEngine.Plan.Error

/-!
# Diagnostics

Errors of registration and planning as they are reported to people: a code, a message, and for
some a help text.
-/

namespace ExprEngine

inductive Fault where
  | plan (e : PlanError)
  | registry (e : RegistryError)
deriving DecidableEq, Inhabited

structure Diagnostic where
  code : String
  message : String
  help : Option String := none
deriving DecidableEq, Inhabited

namespace PlanError

def diagnostic (e : PlanError) : Diagnostic :=
  match e with
  | unknownFunction .. =>
    { code := "celeste::plan::unknown_function"
      message := e.message
      help := some "register an overload for this function in the environment's registry" }
  | arityMismatch .. => { code := "celeste::plan::arity_mismatch", message := e.message }
  | unknownType .. =>
    { code := "celeste::plan::unknown_type"
      message := e.message
      help := some "object types must be registered with the environment's type provider" }
  | malformed .. => { code := "celeste::plan::malformed", message := e.message }

end PlanError

namespace RegistryError

def diagnostic (e : RegistryError) : Diagnostic :=
  match e with
  | collision _ =>
    { code := "celeste::registry::collision"
      message := e.message
      help := some ("give the overload a different operand trait or arity, "
        ++ "or register it under another id") }
  | emptyId => { code := "celeste::registry::empty_id", message := e.message }

end RegistryError

namespace Fault

def diagnostic : Fault → Diagnostic
  | plan e => e.diagnostic
  | registry e => e.diagnostic

def message (f : Fault) : String := f.diagnostic.message

end Fault

namespace Diagnostic

def lines : List Char → List (List Char)
  | [] => [[]]
  | c :: rest =>
    if c = '\n' then [] :: lines rest
    else match lines rest with
      | line :: more => (c :: line) :: more
      | [] => [[c]]

def lineText (margin : String) (line : List Char) : String :=
  margin ++ String.ofList (line.reverse.dropWhile (· = ' ')).reverse

def messageText (message : String) : String :=
  match lines message.toList with
  | first :: more =>
    "\n".intercalate (lineText "  × " first :: more.map (lineText "  │ "))
  | [] => ""

/-- The report without colours. -/
def render (d : Diagnostic) : String :=
  d.code ++ "\n\n" ++ messageText d.message ++ "\n" ++
    match d.help with
    | some help => "  help: " ++ help ++ "\n"
    | none => ""

end Diagnostic

end ExprEngine
