import Isolation.Text.Digits

/-!
# JSON values and how they are written

A value is written on one line without spaces, or over several lines with two spaces of indentation
for each level. Members of an object keep their order. In a string, quotes, backslashes and controls
are escaped and every other character stands for itself.
-/

namespace Isolation

/-- A JSON value; its numbers are counts. -/
inductive Json where
  | null
  | boolean (value : Bool)
  | number (value : Nat)
  | string (value : String)
  | array (items : List Json)
  | object (members : List (String × Json))

namespace Json

/-- One character inside a JSON string. -/
def escapeChar (c : Char) : List Char :=
  match c with
  | '"' => ['\\', '"']
  | '\\' => ['\\', '\\']
  | '\n' => ['\\', 'n']
  | '\r' => ['\\', 'r']
  | '\t' => ['\\', 't']
  | '\x08' => ['\\', 'b']
  | '\x0c' => ['\\', 'f']
  | c =>
    if c.toNat < 0x20 then
      ['\\', 'u', '0', '0', Text.lowerHexDigit (c.toNat / 16), Text.lowerHexDigit (c.toNat % 16)]
    else [c]

/-- A JSON string. -/
def quoteChars (text : List Char) : List Char :=
  '"' :: (text.flatMap escapeChar ++ ['"'])

/-- A JSON string. -/
def quoteString (text : String) : List Char :=
  quoteChars text.toList

/-- A truth value. -/
def booleanChars (value : Bool) : List Char :=
  if value then "true".toList else "false".toList

mutual

/-- A value on one line. -/
def compactChars : Json → List Char
  | null => "null".toList
  | boolean value => booleanChars value
  | number value => Nat.toDigits 10 value
  | string value => quoteString value
  | array [] => ['[', ']']
  | array (first :: rest) => '[' :: (compactChars first ++ compactItems rest)
  | object [] => ['\x7b', '\x7d']
  | object ((name, first) :: rest) =>
    '\x7b' :: (quoteString name ++ ':' :: (compactChars first ++ compactMembers rest))

/-- The items of an array after the first, and its end. -/
def compactItems : List Json → List Char
  | [] => [']']
  | item :: rest => ',' :: (compactChars item ++ compactItems rest)

/-- The members of an object after the first, and its end. -/
def compactMembers : List (String × Json) → List Char
  | [] => ['\x7d']
  | (name, value) :: rest =>
    ',' :: (quoteString name ++ ':' :: (compactChars value ++ compactMembers rest))

end

/-- A line end and the indentation of a level. -/
def newline (level : Nat) : List Char :=
  '\n' :: List.replicate (2 * level) ' '

mutual

/-- A value over several lines; its first line starts where it stands. -/
def prettyChars (level : Nat) : Json → List Char
  | null => "null".toList
  | boolean value => booleanChars value
  | number value => Nat.toDigits 10 value
  | string value => quoteString value
  | array [] => ['[', ']']
  | array (first :: rest) =>
    '[' :: (newline (level + 1) ++ prettyChars (level + 1) first ++ prettyItems level rest)
  | object [] => ['\x7b', '\x7d']
  | object ((name, first) :: rest) =>
    '\x7b' :: (newline (level + 1) ++ quoteString name ++ [':', ' '] ++
      prettyChars (level + 1) first ++ prettyMembers level rest)

/-- The items of an array after the first, and its end. -/
def prettyItems (level : Nat) : List Json → List Char
  | [] => newline level ++ [']']
  | item :: rest =>
    ',' :: (newline (level + 1) ++ prettyChars (level + 1) item ++ prettyItems level rest)

/-- The members of an object after the first, and its end. -/
def prettyMembers (level : Nat) : List (String × Json) → List Char
  | [] => newline level ++ ['\x7d']
  | (name, value) :: rest =>
    ',' :: (newline (level + 1) ++ quoteString name ++ [':', ' '] ++
      prettyChars (level + 1) value ++ prettyMembers level rest)

end

/-- The text of a value on one line. -/
def compact (value : Json) : String :=
  .ofList value.compactChars

/-- The text of a value over several lines. -/
def pretty (value : Json) : String :=
  .ofList (value.prettyChars 0)

end Json

end Isolation
