import ExprEngine.Text.Category

/-!
# Character classes

Blanks, decimal digits, letters of either case, word characters, characters that extend a
grapheme or go unseen, and characters that can be printed as they are. A class is made of
general categories and of a table of characters that belong to it besides.
-/

namespace ExprEngine.Text

def blanks : CodePoints := .ofRuns "9.5 18.1 100.1 26.1 5599.1 2431.11 29.2 5.1 47.1 4000.1"

def digits : CodePoints := Category.decimalNumber.points

def isDigit (c : Char) : Bool := digits.containsChar c

/-! ### Letters -/

/-- Characters that are written as small letters without being letters of their own. -/
def otherLowercase : CodePoints := .ofRuns
  "170.1 15.1 501.9 7.2 30.5 96.1 52.1 3457.1 3119.63 13.1 34.37 689.1 13.1 16.13 211.16 848.26
   1938.2 31262.2 210.1 129.3 3.2 866.4 9.1 23574.1 2.3 1.42 1.9 55413.62"

def lowercase : CodePoints := Category.lowercaseLetter.points ∪ otherLowercase

def otherUppercase : CodePoints := .ofRuns "8544.16 838.26 117856.26 6.26 6.26"

def uppercase : CodePoints := Category.uppercaseLetter.points ∪ otherUppercase

def otherAlphabetic : CodePoints := .ofRuns
  "837.1 29.13 576.14 1.1 1.2 1.2 1.1 72.11 48.13 1.7 16.1 101.7 4.4 2.2 4.1 35.1 30.16 102.11
   101.2 3.9 1.3 1.4 106.1 60.12 3.7 6.20 54.2 2.15 1.2 5.3 10.2 29.3 58.7 2.2 2.2 10.1 10.2
   29.3 58.5 4.2 2.2 4.1 30.2 3.1 11.3 58.8 1.3 1.2 21.2 22.3 4.3 58.7 2.2 2.2 9.2 10.2 30.1
   59.5 3.3 1.3 10.1 40.5 57.7 1.3 1.3 8.2 11.2 29.3 58.7 1.3 1.3 8.2 11.2 15.1 12.4 58.7 1.3
   1.3 10.1 10.2 29.3 75.6 1.1 1.8 18.2 61.1 2.7 18.1 99.1 2.6 1.2 16.1 163.19 9.11 1.36 110.12
   1.1 2.4 23.4 4.3 1.3 2.7 3.4 13.12 1.1 10.4 1652.2 30.2 30.2 30.2 66.19 188.2 34.1 118.12 4.9
   222.5 57.10 2.20 74.2 11.3 49.5 48.15 60.3 30.9 2.2 57.11 50.19 412.34 1729.52 2294.32
   30836.8 34.2 354.1 8.1 23.5 88.2 50.16 1.1 57.1 38.5 28.12 45.4 48.12 37.1 67.14 12.1 8.2
   45.3 50.1 1.3 2.2 5.1 44.5 5.1 237.8 20275.1 2135.5 1670.3 1.2 5.4 788.4 65.1 321.2 79.1
   259.3 53.14 45.2 11.3 45.9 9.1 61.3 36.12 18.2 57.3 48.13 14.2 92.9 2.1 6.1 2.1 157.10 23.4
   58.7 2.2 2.2 10.1 10.2 84.9 1.1 2.1 1.4 1.2 103.13 1.3 106.18 237.7 2.7 29.2 82.15 1.1 106.11
   103.14 257.13 247.6 1.2 2.2 3.1 1.1 142.7 2.6 4.1 28.10 42.5 1.4 18.11 46.14 407.8 1.7 83.22
   1.14 122.6 3.1 1.2 1.3 1.1 3.1 66.5 1.2 1.4 348.4 9.2 1.1 48.7 3.3 16861.17 3616.1 1.55 7.4
   93.2 19628.1 9057.7 1.17 2.7 1.2 1.5 100.1 2231.1 2024.26 6.26 6.26"

def alphabetic : CodePoints :=
  lowercase ∪ uppercase ∪ otherAlphabetic ∪
    Category.pointsOf [.titlecaseLetter, .modifierLetter, .otherLetter, .letterNumber]

def joiners : CodePoints := .range 0x200C 0x200D

/-- What a word is made of: letters, marks, decimal digits, connectors and joiners. -/
def wordCharacters : CodePoints :=
  alphabetic ∪ joiners ∪
    Category.pointsOf (.decimalNumber :: .connectorPunctuation :: Category.marks)

/-! ### Characters that do not stand alone -/

def otherExtenders : CodePoints := .ofRuns
  "2494.1 24.1 358.1 24.1 102.1 24.1 232.1 1.1 4.2 1.2 9.2 103.1 24.1 119.1 15.1 2357.1 30.1
   1024.1 5.1 1.1 5.2 101.1 71.2 1048.1 4129.2 31011.1 108.1 21981.2 4640.1 116.1 264.1 14.1 9.1
   96.1 9.1 2.1 1.3 5.1 224.1 12.1 241.1 262.1 633.1 12.1 1539.1 20654.2 24947.2 6.6 798381.96"

def extenders : CodePoints := Category.pointsOf [.enclosingMark, .nonspacingMark] ∪ otherExtenders

def variationSelectors : CodePoints := .ofRuns "6155.3 1.1 58864.16 852720.240"

def prependedMarks : CodePoints := .ofRuns "1536.6 215.1 49.1 384.2 80.1 67546.1 15.1"

def otherIgnorable : CodePoints := .ofRuns
  "847.1 3599.2 1619.2 2223.1 4350.1 52795.1 79.9 851975.1 1.30 96.128 240.3600"

def ignorable : CodePoints :=
  (otherIgnorable ∪ Category.format.points ∪ variationSelectors) \
    (blanks ∪ prependedMarks ∪ .range 0xFFF9 0xFFFB ∪ .range 0x13430 0x13440)

/-! ### Printing -/

def unprintable : CodePoints :=
  Category.pointsOf (Category.others ++ Category.separators) ∪ extenders ∪ ignorable

/-- Characters younger than the general categories. They have a shape of their own, though no
category of characters holds them. -/
def recent : CodePoints := .ofRuns
  "2191.1 972.1 127.1 5092.1 2772.1 31799.2 2.1 1.1 28.1 21457.16 445.2 54.7 2929.26 1387.3 8.9
   3208.1 3.1 1.1 584.44 4.10 20662.25 2.25 286.5 6145.8 1289.22 97.115 16135.3 445.23 15.17
   6095.31 1.3 1.2 1.7 2.5 9.2 4056.1 158.4 341.9 379.4 50.1 3.1 57.1 4.1 28.1 4.1 266.1 47935.6
   5986.12 21762.4298"

def isPrintable (c : Char) : Bool :=
  c = ' ' || recent.containsChar c || !unprintable.containsChar c

end ExprEngine.Text
