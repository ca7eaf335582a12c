import ExprEngine.Text.Emoji
import ExprEngine.Text.Class

/-!
# Grapheme breaks

The kinds of characters between which a grapheme may or may not end.
-/

namespace ExprEngine.Text.GraphemeBreak

def control : CodePoints :=
  ((Category.unassigned.points ∩ ignorable) ∪
    Category.pointsOf [.lineSeparator, .paragraphSeparator, .control, .format]) \
      (.single 13 ∪ .single 10 ∪ joiners ∪ prependedMarks ∪ extenders)

def extend : CodePoints := extenders ∪ emojiModifiers

def otherPrepend : CodePoints := .ofRuns "3406.1 66675.2 525.1 1389.1 1.1 248.1 73.6 700.1 443.1"

def prepend : CodePoints := prependedMarks ∪ otherPrepend

def plainMarks : CodePoints := .ofRuns
  "4139.2 11.1 41.3 2.7 21.1 3.6 2.1 10.3 2500.1 1.2 36886.1 1.1 27810.2"

def spacingMark : CodePoints :=
  (Category.spacingMark.points \ (extenders ∪ plainMarks)) ∪ .single 0xE33 ∪ .single 0xEB3

def leading : CodePoints := .range 0x1100 0x115F ∪ .range 0xA960 0xA97C

def vowel : CodePoints := .ofRuns "4448.72 50696.23 38300.1 3.4"

def trailing : CodePoints := .range 0x11A8 0x11FF ∪ .range 0xD7CB 0xD7FB

def syllables : CodePoints := .range 0xAC00 0xD7A3

/-- Syllables without a trailing consonant: every twenty-eighth. -/
def openSyllable : CodePoints := .ofAscending (List.range' 0xAC00 399 28)

def closedSyllable : CodePoints := syllables \ openSyllable

def table : List (List String × CodePoints) :=
  [(["CN", "Control"], control), (["CR"], .single 13), (["EX", "Extend"], extend),
   (["L"], leading), (["LF"], .single 10), (["LV"], openSyllable), (["LVT"], closedSyllable),
   (["PP", "Prepend"], prepend), (["RI", "Regional_Indicator"], regionalIndicators),
   (["SM", "SpacingMark"], spacingMark), (["T"], trailing), (["V"], vowel),
   (["ZWJ"], .single 0x200D)]

end ExprEngine.Text.GraphemeBreak
