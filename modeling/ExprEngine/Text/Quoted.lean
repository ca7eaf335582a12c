import ExprEngine.Text.Class

/-!
# Quoted text

Text between double quotes. A quote, a backslash and the common line characters are written
with a backslash; any other character that cannot be printed as it is becomes its code point
in hexadecimal.
-/

namespace ExprEngine.Text

def hexDigits (n : Nat) : String := String.ofList (Nat.toDigits 16 n)

def quotedChar (c : Char) : String :=
  match c with
  | '\x00' => "\\0"
  | '\t' => "\\t"
  | '\n' => "\\n"
  | '\r' => "\\r"
  | '"' => "\\\""
  | '\\' => "\\\\"
  | c => if isPrintable c then c.toString else "\\u\x7b" ++ hexDigits c.toNat ++ "\x7d"

def quoted (s : String) : String :=
  "\"" ++ String.join (s.toList.map quotedChar) ++ "\""

end ExprEngine.Text
