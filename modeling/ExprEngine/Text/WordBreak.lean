import ExprEngine.Text.Casing
import ExprEngine.Text.Emoji
import ExprEngine.Text.Script
import ExprEngine.Text.Sign

/-!
# Word breaks

The kinds of characters between which a word may or may not end.
-/

namespace ExprEngine.Text.WordBreak

def newline : CodePoints := .ofRuns "11.2 120.1 8098.2"

def extend : CodePoints :=
  (extenders ∪ Category.spacingMark.points ∪ emojiModifiers) \ .single 0x200D

def format : CodePoints :=
  Category.format.points \ (extend ∪ prependedMarks ∪ .range 0x200B 0x200D)

def scriptPoints (name : String) : CodePoints :=
  ((scriptTable.find? fun (names, _) => names.contains name).map Prod.snd).getD .empty

def hebrewLetter : CodePoints := scriptPoints "Hebr" ∩ Category.otherLetter.points

def otherKatakana : CodePoints := .ofRuns "12337.5 101.2 3.1 91.1 52851.1"

def katakana : CodePoints := scriptPoints "Kana" ∪ otherKatakana

def unspaced : CodePoints := .ofRuns
  "3585.48 1.2 12.7 58.2 1.1 1.5 1.24 1.1 1.10 1.2 9.1 2.5 1.1 21.4 288.43 20.1 16.6 4.4 3.1 3.2
   7.3 4.13 12.1 1777.52 35.1 4.1 371.30 2.5 11.44 4.26 86.53 82.1 36664.5 1.10 10.5 97.23 3.1
   3.50 1.1 3.2 2.5 2.1 1.1 24.3 27682.27 37.7"

def otherLetters : CodePoints := .ofRuns
  "706.4 12.6 6.2 5.7 1.1 1.17 602.3 1.1 43.1 104.1 283.1 40952.15 9.2 103.2 976.1"

def letter : CodePoints :=
  (alphabetic \ (ideographs ∪ katakana ∪ scriptPoints "Hira" ∪ extend ∪ hebrewLetter ∪ unspaced)) ∪
    otherLetters

def midNumber : CodePoints := .ofRuns
  "44.1 14.1 834.1 522.1 130.2 94.1 395.1 6219.1 56843.1 3.1 183.1 14.1"

def otherNumeric : CodePoints := .ofRuns "1536.6 101.1 113.1 434.2 80.1 4343.1 63202.1 15.1"

def numeric : CodePoints := digits ∪ otherNumeric

/-- Connectors between letters or digits, and the narrow space between digits. -/
def connector : CodePoints := Category.connectorPunctuation.points ∪ .single 0x202F

def space : CodePoints :=
  Category.spaceSeparator.points \ (.single 0xA0 ∪ .single 0x2007 ∪ .single 0x202F)

def table : List (List String × CodePoints) :=
  [(["LE", "ALetter"], letter), (["CR"], .single 13), (["DQ", "Double_Quote"], .single 0x22),
   (["Extend"], extend), (["EX", "ExtendNumLet"], connector), (["FO", "Format"], format),
   (["HL", "Hebrew_Letter"], hebrewLetter), (["KA", "Katakana"], katakana), (["LF"], .single 10),
   (["ML", "MidLetter"], midLetters), (["MN", "MidNum"], midNumber),
   (["MB", "MidNumLet"], midLettersOrDigits), (["NL", "Newline"], newline),
   (["NU", "Numeric"], numeric), (["RI", "Regional_Indicator"], regionalIndicators),
   (["SQ", "Single_Quote"], apostrophe), (["WSegSpace"], space), (["ZWJ"], .single 0x200D)]

end ExprEngine.Text.WordBreak
