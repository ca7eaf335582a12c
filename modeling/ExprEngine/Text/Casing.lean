import ExprEngine.Text.Class

/-!
# Case

Characters with a case, characters that a change of case passes by, and characters that a change
of case replaces. Those are the letters of the other case, with exceptions.
-/

namespace ExprEngine.Text

def cased : CodePoints := lowercase ∪ uppercase ∪ Category.titlecaseLetter.points

/-- Signs that may stand between two letters of a word. -/
def midLetters : CodePoints := .ofRuns "58.1 124.1 719.1 471.1 148.1 6706.1 56811.1 65.1 196.1"

/-- Signs that may stand between two letters or two digits. -/
def midLettersOrDigits : CodePoints := .ofRuns "46.1 8169.2 10.1 56877.1 180.1 6.1"

def apostrophe : CodePoints := .single 0x27

/-- Characters that do not count in a test of what surrounds a letter. -/
def caseIgnorable : CodePoints :=
  Category.pointsOf [.nonspacingMark, .enclosingMark, .format, .modifierLetter, .modifierSymbol] ∪
    midLetters ∪ midLettersOrDigits ∪ apostrophe

def softDotted : CodePoints := .ofRuns
  "105.2 196.1 281.1 30.1 52.1 20.1 320.1 98.1 1.1 6409.1 51.1 13.1 3.1 132.1 157.1 421.1 214.2
   2866.1 108453.2 50.2 50.2 50.2 50.2 50.2 50.2 50.2 50.2 50.2 50.2 50.2 50.2 2182.1 305.2 26.1"

/-! ### Changes of case -/

def withoutLowercase : CodePoints := .ofRuns
  "978.3 7469.1 4.1 3.3 2.3 2.1 3.5 6.1 3.1 3.2 2.2 1.1 10.2 5.1 111290.26 26.26 26.26 26.1 1.2
   2.1 2.2 2.4 1.8 26.26 26.2 1.4 2.8 1.7 27.2 1.4 1.5 1.1 3.7 27.26 26.26 26.26 26.26 26.26
   26.26 30.25 33.25 33.25 33.25 33.25 33.1 6501.26 6.26 6.26"

def changedByLowercase : CodePoints :=
  (uppercase ∪ Category.titlecaseLetter.points) \ withoutLowercase

def withoutUppercase : CodePoints := .ofRuns
  "170.1 15.1 125.1 84.1 28.2 14.1 3.1 98.1 18.6 27.1 2.1 1.1 2.3 2.1 4.1 5.2 1.1 2.2 1.7 1.2
   1.1 2.3 6.5 1.1 1.8 2.26 7.2 30.5 149.1 129.1 355.1 39.1 2931.1 3075.121 1.3 1.16 1.49 220.2
   1.1 465.1 13.1 16.13 109.1 3.2 3.1 27.1 4.1 4.1 2.2 8.4 2855.1 2.1 2.7 102.1 31159.2 146.2
   62.9 21.1 6.1 25.1 35.1 1.1 28.3 3.3 821.35 1.7 1.14 23574.1 2.3 1.42 1.9 52319.26 26.7 1.18
   26.26 26.4 1.1 1.7 1.11 26.26 26.26 26.26 26.26 26.26 26.26 26.26 26.26 26.28 28.25 1.6 26.25
   1.6 26.25 1.6 26.25 1.6 26.25 1.6 1.1 1844.10 1.20 6.6 261.62"

/-- Characters besides the small letters that a change to capitals replaces. -/
def uppercasedMarks : CodePoints := .ofRuns "453.1 2.1 2.1 38.1 7573.8 8.8 8.8 12.1 15.1 47.1"

def changedByUppercase : CodePoints := (lowercase \ withoutUppercase) ∪ uppercasedMarks

def titlecaseOnly : CodePoints := .ofRuns "452.1 2.1 2.1 38.1"

/-- Characters that begin a title as they are. -/
def uppercaseOnly : CodePoints := .ofRuns
  "453.1 2.1 2.1 38.1 3805.43 2.3 3720.8 8.8 8.8 12.1 15.1 47.1"

def changedByTitlecase : CodePoints := (changedByUppercase \ uppercaseOnly) ∪ titlecaseOnly

def foldedToUppercase : CodePoints := .ofRuns "5024.86"

def foldedLetters : CodePoints := .ofRuns
  "181.1 41.1 105.1 53.1 453.1 124.1 13.2 3.2 25.2 3.1 401.1 3696.6 2178.9 529.2 228.8 8.8 8.8
   10.3 2.1 10.3 2.1 42.3 2.1 35704.80 20288.7 12.5"

def changedByFolding : CodePoints := (changedByLowercase \ foldedToUppercase) ∪ foldedLetters

def changedByCase : CodePoints := changedByLowercase ∪ changedByUppercase ∪ changedByTitlecase

end ExprEngine.Text
