import ExprEngine.Text.WordBreak

/-!
# Sentence breaks

The kinds of characters between which a sentence may or may not end.
-/

namespace ExprEngine.Text.SentenceBreak

def extend : CodePoints := extenders ∪ Category.spacingMark.points ∪ .single 0x200D

def separator : CodePoints := .ofRuns "133.1 8098.2"

def space : CodePoints := blanks \ (separator ∪ .single 13 ∪ .single 10)

def unformatted : CodePoints := .ofRuns "1536.6 215.1 434.2 80.1 5929.2 61615.1 15.1 847698.96"

def format : CodePoints := Category.format.points \ unformatted

/-- Letters of a script whose capitals do not begin sentences. -/
def georgianSmall : CodePoints := .range 0x10D0 0x10FA ∪ .range 0x10FD 0x10FF

def georgianCapital : CodePoints := .range 0x1C90 0x1CBA ∪ .range 0x1CBD 0x1CBF

def lower : CodePoints := lowercase \ (extenders ∪ georgianSmall)

def upper : CodePoints := (uppercase ∪ Category.titlecaseLetter.points) \ georgianCapital

def otherLetter : CodePoints := (alphabetic \ (lower ∪ upper ∪ extend)) ∪ .single 0x5F3

def numeric : CodePoints := WordBreak.numeric ∪ .single 0x66C

def stop : CodePoints := .ofRuns "46.1 8181.1 56877.1 187.1"

def final : CodePoints := sentenceEnds \ stop

def otherClose : CodePoints := .ofRuns "10075.6 1695.2 4.3 2.1 116842.3"

def plainClose : CodePoints := .ofRuns "65282.1 4.1"

def close : CodePoints :=
  (quotationMarks ∪ otherClose ∪ Category.pointsOf
    [.openPunctuation, .closePunctuation, .initialPunctuation, .finalPunctuation]) \ plainClose

def continuation : CodePoints := .ofRuns
  "44.2 12.2 834.1 478.1 174.2 490.1 4105.1 5.1 2058.2 4076.1 52750.2 1.2 28.2 29.2 2.2 2.1 10.1
   168.2 12.2 72.1"

def table : List (List String × CodePoints) :=
  [(["AT", "ATerm"], stop), (["CL", "Close"], close), (["CR"], .single 13),
   (["EX", "Extend"], extend), (["FO", "Format"], format), (["LE", "OLetter"], otherLetter),
   (["LF"], .single 10), (["LO", "Lower"], lower), (["NU", "Numeric"], numeric),
   (["SC", "SContinue"], continuation), (["SE", "Sep"], separator), (["SP", "Sp"], space),
   (["ST", "STerm"], final), (["UP", "Upper"], upper)]

end ExprEngine.Text.SentenceBreak
