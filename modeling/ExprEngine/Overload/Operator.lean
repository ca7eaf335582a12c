/-!
# Operator names

The function names that operators and built-in functions are called by.
-/

namespace ExprEngine.Operator

def add : String := "_+_"

def subtract : String := "_-_"

def multiply : String := "_*_"

def divide : String := "_/_"

def modulo : String := "_%_"

def negate : String := "-_"

def logicalNot : String := "!_"

def logicalAnd : String := "_&&_"

def logicalOr : String := "_||_"

def conditional : String := "_?_:_"

def equals : String := "_==_"

def notEquals : String := "_!=_"

def less : String := "_<_"

def lessEquals : String := "_<=_"

def greater : String := "_>_"

def greaterEquals : String := "_>=_"

def index : String := "_[_]"

def member : String := "@in"

def memberOld : String := "in"

def notStrictlyFalse : String := "@not_strictly_false"

def notStrictlyFalseOld : String := "__not_strictly_false__"

def size : String := "size"

def search : String := "matches"

def contains : String := "contains"

def startsWith : String := "startsWith"

def endsWith : String := "endsWith"

/-- The operators that choose which of their operands count. -/
def isLogical (function : String) : Bool :=
  function == logicalAnd || function == logicalOr || function == conditional

end ExprEngine.Operator
