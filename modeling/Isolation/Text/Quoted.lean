import Isolation.Text.Digits
import Isolation.Text.Printable

/-!
# Quoted text

A text between double quotes on one line: quotes and backslashes are escaped, five controls have
short escapes, and every other character that is not printable is given by its code point.
-/

namespace Isolation.Text

/-- One character inside quotes. -/
def quoteChar (c : Char) : List Char :=
  match c with
  | '\x00' => ['\\', '0']
  | '\t' => ['\\', 't']
  | '\r' => ['\\', 'r']
  | '\n' => ['\\', 'n']
  | '"' => ['\\', '"']
  | '\\' => ['\\', '\\']
  | c =>
    if isPrintable c then [c]
    else ['\\', 'u', '\x7b'] ++ hexDigits c.toNat ++ ['\x7d']

/-- A text between double quotes. -/
def quote (text : String) : String :=
  .ofList ('"' :: (text.toList.flatMap quoteChar ++ ['"']))

/-- A set of texts: each one quoted, between braces. -/
def quoteSet (texts : List String) : String :=
  "\x7b" ++ String.intercalate ", " (texts.map quote) ++ "\x7d"

end Isolation.Text
