import NodeAtlas.Text.PrintTable
import NodeAtlas.Text.CaseTable

/-!
# Quoted text

A text shown between double quotes for a reader of logs: quotes and backslashes are escaped, and a
character that could not be seen is written as its code point.
-/

namespace NodeAtlas.Text

/-- The digits of `n` in lower-case hexadecimal. -/
def hexDigits (n : Nat) : String :=
  String.ofList (Nat.toDigits 16 n)

/-- One character inside a quoted text. -/
def quoteChar (c : Char) : String :=
  match c with
  | '\x00' => "\\0"
  | '\t' => "\\t"
  | '\r' => "\\r"
  | '\n' => "\\n"
  | '"' => "\\\""
  | '\\' => "\\\\"
  | c =>
    if inRanges graphemeExtendRanges c || inRanges unprintableRanges c then
      "\\u\x7b" ++ hexDigits c.toNat ++ "\x7d"
    else c.toString

/-- The text between double quotes. -/
def quoted (s : String) : String :=
  "\"" ++ String.join (s.toList.map quoteChar) ++ "\""

end NodeAtlas.Text
