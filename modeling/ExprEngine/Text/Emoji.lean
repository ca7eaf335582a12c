import ExprEngine.Text.CodePoints

/-!
# Emoji

Pictures, their modifiers and what sequences of them are made of.
-/

namespace ExprEngine.Text

def emoji : CodePoints := .ofRuns
  "35.1 6.1 5.10 111.1 4.1 8077.1 12.1 216.1 22.1 90.6 15.2 367.2 12.1 166.1 25.11 4.3 199.1
   231.2 10.1 9.1 58.4 1.5 9.1 2.1 2.2 2.1 4.1 2.1 1.2 2.1 3.1 3.2 8.3 5.1 1.1 5.12 11.2 2.1 1.2
   1.1 18.1 2.2 18.6 1.1 1.2 3.2 5.1 2.2 4.2 11.2 5.2 2.1 5.2 1.1 1.2 20.2 5.6 1.4 2.1 4.1 2.1
   2.6 1.1 2.1 1.1 1.1 6.1 3.1 6.1 10.2 15.1 2.1 4.1 1.1 4.3 1.1 11.2 48.3 9.1 14.1 14.1 372.2
   463.3 19.2 51.1 4.1 1242.1 12.1 601.1 1.1 114026.1 202.1 160.2 12.2 14.1 2.10 75.26 1.2 23.1
   20.1 2.9 21.2 174.34 2.112 2.2 1.3 2.83 2.3 1.263 1.63 11.6 1.24 7.2 2.8 12.1 2.4 2.1 4.2
   13.2 2.1 8.2 9.1 5.3 12.3 8.3 2.1 1.1 4.1 6.1 3.1 6.86 48.70 5.8 2.3 4.10 3.1 1.2 3.1 2.10
   227.12 4.1 283.47 1.10 1.185 112.13 3.10 5.56 7.15 2.11 6.9"

def emojiShownPlain : CodePoints := .ofRuns
  "35.1 6.1 5.10 111.1 4.1 8077.1 12.1 216.1 22.1 90.6 15.2 381.1 166.1 29.3 1.2 5.3 199.1 231.2
   10.1 9.1 58.2 3.5 9.1 2.1 6.1 4.1 2.1 1.2 2.1 3.1 3.2 8.3 5.1 1.1 28.2 2.1 1.2 1.1 18.1 2.1
   19.1 1.4 1.1 1.2 3.1 6.1 8.2 22.1 6.1 1.1 1.1 21.1 6.2 2.1 2.3 8.1 5.2 2.2 1.1 2.1 1.1 1.1
   6.1 3.1 17.2 15.1 2.1 27.2 60.1 402.2 463.3 1320.1 12.1 601.1 1.1 114390.2 12.2 130.1 52.1
   233.1 2.9 9.1 70.1 24.2 1.3 2.2 43.4 5.12 19.1 1.1 1.1 71.1 1.1 187.1 75.2 36.2 2.7 13.1 2.4
   2.1 20.1 2.1 8.2 9.1 5.3 12.3 8.3 2.1 1.1 4.1 6.1 3.1 6.1 208.1 1.3 16.6 3.1 6.1 2.1"

def emojiShown : CodePoints := emoji \ emojiShownPlain

def emojiModifiers : CodePoints := .range 0x1F3FB 0x1F3FF

def emojiBases : CodePoints := .ofRuns
  "9757.1 219.1 16.4 117879.1 60.3 2.1 2.3 117.2 2.11 21.19 3.1 4.3 1.3 7.1 1.1 24.1 201.2 4.1
   21.1 4.2 174.3 3.5 83.1 16.3 9.1 11.1 575.1 2.1 8.8 6.1 9.10 2.3 56.1 61.2 1.2 1.1 17.3 1.13
   229.3 42.9"

def regionalIndicators : CodePoints := .range 0x1F1E6 0x1F1FF

def emojiParts : CodePoints := .ofRuns
  "35.1 6.1 5.10 8147.1 213.1 56619.1 62422.26 507.5 1456.4 788076.96"

def pictures : CodePoints := .ofRuns
  "169.1 4.1 8077.1 12.1 216.1 22.1 90.6 15.2 367.2 12.1 95.1 70.1 25.11 4.3 199.1 231.2 10.1
   9.1 58.4 1.6 1.12 1.114 10.118 2.11 1.1 1.1 6.1 3.1 6.1 10.2 15.1 2.1 4.1 1.1 4.3 1.1 11.5
   45.3 9.1 14.1 14.1 372.2 463.3 19.2 51.1 4.1 1242.1 12.1 601.1 1.1 114022.256 13.3 31.1 60.6
   12.2 14.1 2.10 18.57 27.15 10.1 20.1 2.9 1.4 9.434 5.318 8.266 48.128 116.12 85.43 12.4 56.8
   10.6 40.8 30.82 12.47 1.10 1.441 256.1022"

end ExprEngine.Text
