import ExprEngine.Text.Class

/-!
# Identifiers

The characters that begin an identifier and those that continue it, in a plain form and in one
that normalisation keeps, and the characters that patterns reserve.
-/

namespace ExprEngine.Text

def reservedSyntax : CodePoints := .ofRuns
  "33.15 10.7 26.4 1.1 26.4 34.7 1.1 1.2 1.1 1.2 4.1 4.1 3.1 23.1 31.1 7960.24 8.15 2.19 1.10
   305.720 160.630 30.1132 512.128 385.3 4.25 15.1 52493.2 261.2"

def reservedBlanks : CodePoints := .ofRuns "9.5 18.1 100.1 8072.2 24.2"

def otherIdentifierStart : CodePoints := .ofRuns "6277.2 2193.1 21.1 3948.2"

def otherIdentifierContinue : CodePoints := .ofRuns
  "183.1 719.1 4065.9 1640.1 1585.2 4333.1 52841.1"

def identifierStart : CodePoints :=
  (Category.pointsOf (.letterNumber :: Category.letters) ∪ otherIdentifierStart) \
    (reservedSyntax ∪ reservedBlanks)

def identifierContinue : CodePoints :=
  identifierStart ∪
    ((Category.pointsOf [.nonspacingMark, .spacingMark, .decimalNumber, .connectorPunctuation] ∪
      otherIdentifierContinue) \ (reservedSyntax ∪ reservedBlanks))

/-- Characters whose normal form does not begin an identifier. -/
def unstableStart : CodePoints := .ofRuns
  "890.1 2744.1 127.1 8679.2 52161.6 406.2 116.1 1.1 1.1 1.1 1.1 1.1 1.1 1.1 287.2"

def unstableContinue : CodePoints := .ofRuns
  "890.1 11552.2 52161.6 406.2 116.1 1.1 1.1 1.1 1.1 1.1 1.1 1.1"

def stableStart : CodePoints := identifierStart \ unstableStart

def stableContinue : CodePoints := identifierContinue \ unstableContinue

def mathStart : CodePoints := .ofRuns
  "8706.1 4.1 22.1 111778.1 25.1 31.1 25.1 31.1 25.1 31.1 25.1 31.1 25.1"

def mathMarks : CodePoints := .ofRuns "178.2 5.1 8118.1 3.11 1.15"

def mathContinue : CodePoints := mathStart ∪ mathMarks

end ExprEngine.Text
