import ExprEngine.Text.Class

/-!
# Signs

Punctuation by what it does, marks by what they change, and ideographs.
-/

namespace ExprEngine.Text

/-! ### Punctuation -/

def dashes : CodePoints := .ofRuns
  "45.1 1372.1 51.1 3649.1 1029.1 2057.6 61.1 39.1 15.1 390.1 3076.1 2.1 31.2 4.1 28.1 446.1
   19.1 111.1 52624.2 37.1 10.1 169.1 3680.1 318.1"

def hyphens : CodePoints := .ofRuns
  "45.1 127.1 1244.1 4731.1 2057.2 3589.1 739.1 52583.1 169.1 87.1"

def quotationMarks : CodePoints := .ofRuns
  "34.1 4.1 131.1 15.1 8028.8 25.2 3591.1 457.4 13.3 52769.4 189.1 4.1 90.2"

def sentenceEnds : CodePoints := .ofRuns
  "33.1 12.1 16.1 1353.1 147.3 180.1 43.3 246.1 61.1 1.1 3.2 293.2 1764.2 790.1 4.2 773.1 198.2
   157.2 45.1 5.1 314.2 354.4 162.2 10.2 2.2 29.3 187.2 65.2 932.1 23.2 9.3 3247.3 306.1 13.1
   22.2 429.1 29948.1 270.2 227.1 3.1 382.2 86.2 95.1 152.2 147.3 144.2 249.1 21030.1 2.2 59.1
   3.2 169.1 12.1 16.1 65.1 2804.2 1277.5 44.4 189.2 117.4 127.3 129.2 6.1 16.2 88.2 1.2 108.1
   298.2 117.2 373.2 5.15 105.2 249.3 517.1 1.1 251.2 87.2 420.2 692.2 74.2 19241.2 133.1 65.2
   11.1 553.2 296.1 19974.1 7656.1"

def clauseEnds : CodePoints := .ofRuns
  "44.1 13.2 834.1 8.1 571.1 72.1 14.1 231.8 1.1 235.1 55.6 2.1 1.3 33.1 1531.2 172.1 4.6 1102.1
   1.4 900.3 232.1 3.1 39.1 1.2 2.1 852.1 223.3 4609.1 10.1 1.2 433.1 29948.1 270.1 230.3 720.1
   279.1 21360.2 2.2 182.1 13.2 72.1 1082.1 48.1 1158.1 199.1 464.6 68.6 89.4 1196.5 492.1 530.1
   12.2 360.2 1243.2 416.1 45.1 2046.5 18116.1 861.1 27631.1 1.2"

def phraseEnds : CodePoints := sentenceEnds ∪ clauseEnds

/-- Signs that are turned around in text that runs from right to left. -/
def mirrored : CodePoints := .ofRuns
  "40.2 18.1 1.1 28.1 1.1 29.1 1.1 45.1 15.1 3710.4 1885.2 2460.2 10.2 54.2 14.2 177.1 192.4 3.6
   3.1 3.2 3.4 1.4 1.1 1.1 4.9 5.1 1.18 5.4 9.2 1.1 1.8 1.32 2.4 5.1 9.2 2.19 5.2 9.5 2.2 4.24
   2.16 8.4 20.2 7.2 1085.14 74.1 2.4 1.2 1.3 5.4 5.3 3.14 403.22 2.6 1.14 8.1 7.6 3.1 4.5 1.2
   2.5 4.1 1.3 2.2 10.6 2.2 12.19 1.4 2.1 1.1 2.1 1.4 5.2 6.3 24.2 11.2 4.4 1.2 2.2 4.43 2.8
   1.40 5.1 1.1 3.5 5.3 4.1 3.5 1.1 256.1 515.4 3.2 1.2 14.2 2.10 43.8 427.10 2.8 52797.6 5.2
   162.2 18.1 1.1 28.1 1.1 29.1 1.1 1.2 1.2 55159.1 57.1 57.1 57.1 57.1"

def directionMarks : CodePoints := .ofRuns "1564.1 6641.2 26.5 55.4"

def otherMath : CodePoints := .ofRuns
  "94.1 881.3 2.1 26.2 2.2 7200.1 27.3 11.1 32.4 24.2 14.2 65.13 4.1 3.2 4.5 18.1 4.1 2.10 1.1
   3.5 6.1 3.2 2.2 1.3 1.6 3.4 5.5 75.5 2.4 1.2 1.2 1.1 1.5 2.2 4.2 4.18 2.2 1.1 1.7 1.1 6.2
   290.4 168.2 1.1 24.1 17.1 445.2 12.9 5.5 5.2 2.2 3.5 14.1 1.1 2.6 24.2 57.1 1.1 29.4 9.2
   342.2 31.10 403.22 63.4 32.2 54371.1 1.1 4.1 211.1 1.1 54465.85 1.71 1.2 2.1 2.2 2.4 1.12 1.1
   1.7 1.65 1.4 2.8 1.7 1.28 1.4 1.5 1.1 3.7 1.340 2.25 1.25 1.31 1.25 1.31 1.25 1.31 1.25 1.31
   1.25 1.8 2.50 5632.4 1.27 1.2 1.1 2.1 1.10 1.4 1.1 1.1 6.1 4.1 1.1 1.1 1.3 1.2 1.1 2.1 1.1
   1.1 1.1 1.1 1.2 1.1 2.4 1.7 1.4 1.4 1.1 1.10 1.17 5.3 1.5 1.17"

def mathSigns : CodePoints := Category.mathSymbol.points ∪ otherMath

def asciiHexDigits : CodePoints := .ofRuns "48.10 7.6 26.6"

def hexDigitSigns : CodePoints := .ofRuns "48.10 7.6 26.6 65193.10 7.6 26.6"

/-! ### Marks -/

def diacritics : CodePoints := .ofRuns
  "94.1 1.1 71.1 6.1 4.1 2.2 503.159 1.8 5.6 17.2 4.1 9.2 253.5 209.1 55.17 1.27 1.1 1.2 1.1
   134.8 4.2 134.2 4.2 3.3 67.27 91.11 58.11 34.2 126.8 41.10 16.28 61.1 16.1 3.4 28.1 74.1 16.1
   110.1 16.1 110.1 16.1 47.3 60.1 16.1 7.1 119.1 110.1 16.1 110.1 16.1 109.2 16.1 124.1 111.1
   12.6 1.1 107.1 13.5 75.2 27.1 1.1 1.1 4.2 66.3 1.2 62.1 112.1 1.2 40.2 4.5 25.7 1.1 10.2
   705.3 948.2 30.1 148.11 9.1 347.3 292.1 20.8 2.1 48.15 2.11 104.1 15.1 38.9 54.2 58.1 11.2
   66.2 64.6 82.25 4.1 6.1 2.3 50.63 89.12 37.11 445.1 1.3 11.3 13.3 13.3 13.2 3312.3 317.1
   506.6 105.4 95.1 30066.1 12.2 1.1 28.2 82.2 14.34 102.3 109.2 12.1 37.1 151.1 27.18 57.4 36.1
   95.1 12.1 36.1 149.3 65.4 51.1 100.5 9.3 128.2 20272.1 769.16 270.1 1.1 47.1 45.2 67.1 764.1
   1183.6 1.42 1.9 637.3 4.1 165.2 571.6 38.1 26.5 399.3 70.11 49.4 192.1 41.1 72.2 120.2 62.1
   76.1 9.3 104.2 178.2 80.2 16.1 24.7 3.5 89.3 1.2 13.2 95.1 3.1 123.2 251.2 126.1 118.2 115.1
   269.2 258.2 4.1 156.1 83.1 18.1 81.1 421.1 258.1 1.2 81.1 425.2 23.1 5356.15 11481.1 2496.5
   59.7 564.2 546.17 80.2 16382.4 1.7 1.2 7937.46 2.23 544.3 3.6 8.8 2.7 30.4 3714.62 194.7
   375.1 61.4 766.2 736.7 109.3 1.3"

def prolongers : CodePoints := .ofRuns
  "183.1 536.2 878.1 441.1 630.1 137.1 89.1 752.1 127.1 2371.1 56.1 611.1 398.1 68.1 5001.1 43.5
   103.2 93.3 28438.1 1526.1 962.1 22.1 137.1 108.1 21.2 21627.1 2064.2 1483.1 27.1 4.1 1223.1
   293.1 116.2 498.3 1231.1 20649.2 1180.2 1.1 29016.2 1201.1 852.3"

def graphemeLinks : CodePoints := .ofRuns
  "2381.1 127.1 127.1 127.1 127.1 127.1 127.1 127.1 109.2 16.1 124.1 111.1 127.1 201.1 180.2
   1753.2 30.1 157.1 653.1 227.1 101.2 70.2 4491.1 31366.1 37.1 151.1 142.1 108.1 309.1 246.1
   24145.1 1542.1 41.1 14.1 57.1 121.2 139.1 116.1 180.1 98.1 128.3 113.1 127.1 252.1 127.1
   118.1 116.1 269.1 259.2 161.1 83.1 18.1 81.1 421.1 260.2 81.1 425.2 16876.1"

def modifierMarks : CodePoints := .ofRuns "1620.2 2.1 131.1 6.1 3.2 481.2 1.3 3.1 31.1"

def visualOrder : CodePoints := .ofRuns "3648.5 123.5 2800.3 2.1 37114.2 2.1 1.2"

def graphemeBases : CodePoints :=
  .complement (extenders ∪
    Category.pointsOf (.lineSeparator :: .paragraphSeparator :: Category.others))

def discouraged : CodePoints := .ofRuns "329.1 1321.1 2307.1 1.1 2089.2 2245.6 697.2 908502.1"

def noncharacters : CodePoints := .ofRuns
  "64976.32 526.2 65534.2 65534.2 65534.2 65534.2 65534.2 65534.2 65534.2 65534.2 65534.2
   65534.2 65534.2 65534.2 65534.2 65534.2 65534.2 65534.2"

/-! ### Ideographs -/

def unifiedIdeographs : CodePoints := .ofRuns
  "13312.6592 64.20992 23054.2 1.1 1.2 10.1 1.1 1.2 2.3 67030.42720 32.4154 6.222 2.5762 14.7473
   15.622 4514.4939 5.4192"

def otherIdeographs : CodePoints := .ofRuns
  "12294.2 25.9 14.3 51397.270 2.1 1.1 2.10 1.1 1.1 2.2 3.68 2.106 29962.1 27.6136 8.1238 41.10
   9319.396 83204.542"

def ideographs : CodePoints := unifiedIdeographs ∪ otherIdeographs

def radicals : CodePoints := .ofRuns "11904.26 1.89 12.214"

def binaryDescriptions : CodePoints := .ofRuns "12272.2 2.10 497.1"

def ternaryDescriptions : CodePoints := .ofRuns "12274.2"

def unaryDescriptions : CodePoints := .ofRuns "12286.2"

end ExprEngine.Text
