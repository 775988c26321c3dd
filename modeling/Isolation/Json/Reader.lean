import Isolation.Json.Number
import Isolation.NameMap
import Isolation.Path
import Isolation.Text.Digits

/-!
# Reading JSON

A reader takes a value off the front of a text. Readers are combined into readers of lists, of maps
and of records; a record may be given as an object, or as an array of its fields in order. Fields
that a record does not know are skipped.
-/

namespace Isolation.Json

/-- A value and the text after it. -/
abbrev Reader (α : Type) := List Char → Except ReadError (α × List Char)

/-- Whether a character may stand between the tokens of a JSON text. -/
def isSpace (c : Char) : Bool :=
  c == ' ' || c == '\n' || c == '\t' || c == '\r'

/-- The text from its next token on. -/
def skipSpace (text : List Char) : List Char :=
  text.dropWhile isSpace

/-- Takes the rest of a word off a text. -/
def expectWord : List Char → List Char → Except ReadError (List Char)
  | [], text => .ok text
  | _ :: _, [] => .error .truncated
  | c :: word, d :: text => if c = d then expectWord word text else .error .malformed

/-- Takes four hexadecimal digits off a text. -/
def readHexUnit (text : List Char) : Except ReadError (Nat × List Char) :=
  match text with
  | a :: b :: c :: d :: rest =>
    match Text.hexValue? a, Text.hexValue? b, Text.hexValue? c, Text.hexValue? d with
    | some a, some b, some c, some d => .ok (((a * 16 + b) * 16 + c) * 16 + d, rest)
    | _, _, _, _ => .error .malformed
  | short =>
    if short.foldl (fun total c => total + c.utf8Size) 0 < 4 then .error .truncated
    else .error .malformed

/-- Takes the second half of a surrogate pair off a text. -/
def readLowSurrogate (high : Nat) (text : List Char) : Except ReadError (Char × List Char) :=
  match text with
  | [] => .error .truncated
  | '\\' :: [] => .error .truncated
  | '\\' :: 'u' :: rest => do
    let (low, rest) ← readHexUnit rest
    if low < 0xDC00 ∨ 0xDFFF < low then .error .malformed
    else .ok (Char.ofNat ((high - 0xD800) * 1024 + (low - 0xDC00) + 0x10000), rest)
  | _ => .error .malformed

/-- Takes an escaped character off a text, after the backslash. -/
def readEscape (text : List Char) : Except ReadError (Char × List Char) :=
  match text with
  | [] => .error .truncated
  | '"' :: rest => .ok ('"', rest)
  | '\\' :: rest => .ok ('\\', rest)
  | '/' :: rest => .ok ('/', rest)
  | 'b' :: rest => .ok ('\x08', rest)
  | 'f' :: rest => .ok ('\x0c', rest)
  | 'n' :: rest => .ok ('\n', rest)
  | 'r' :: rest => .ok ('\r', rest)
  | 't' :: rest => .ok ('\t', rest)
  | 'u' :: rest => do
    let (unit, rest) ← readHexUnit rest
    if 0xDC00 ≤ unit ∧ unit ≤ 0xDFFF then .error .malformed
    else if 0xD800 ≤ unit ∧ unit ≤ 0xDBFF then readLowSurrogate unit rest
    else .ok (Char.ofNat unit, rest)
  | _ => .error .malformed

/-- Takes the characters of a string off a text, after the opening quote. The first argument bounds
the number of characters. -/
def readCharacters : Nat → Reader (List Char)
  | 0, _ => .error .truncated
  | _ + 1, [] => .error .truncated
  | _ + 1, '"' :: rest => .ok ([], rest)
  | fuel + 1, '\\' :: rest => do
    let (c, rest) ← readEscape rest
    let (more, rest) ← readCharacters fuel rest
    return (c :: more, rest)
  | fuel + 1, c :: rest =>
    if c.toNat < 0x20 then .error .malformed
    else do
      let (more, rest) ← readCharacters fuel rest
      return (c :: more, rest)

/-- Takes the rest of a string off a text, after the opening quote. -/
def readQuoted (text : List Char) : Except ReadError (String × List Char) :=
  (readCharacters (text.length + 1) text).map fun (chars, rest) => (.ofList chars, rest)

/-- Says what kind of value comes next. -/
def describeNext (text : List Char) : Except ReadError Found :=
  match text with
  | [] => .error .truncated
  | 'n' :: rest => (expectWord "ull".toList rest).map fun _ => .null
  | 't' :: rest => (expectWord "rue".toList rest).map fun _ => .boolean true
  | 'f' :: rest => (expectWord "alse".toList rest).map fun _ => .boolean false
  | '"' :: rest => (readQuoted rest).map fun (text, _) => .string text
  | '[' :: _ => .ok .sequence
  | '\x7b' :: _ => .ok .map
  | '-' :: rest => (readNumber true rest).map (·.1)
  | c :: rest => if c.isDigit then (readNumber false (c :: rest)).map (·.1) else .error .malformed

/-- The error of a text whose next value is not of the expected kind. -/
def unexpected (expected : String) (text : List Char) : ReadError :=
  match describeNext text with
  | .ok found => .mismatch (.wrongKind found expected)
  | .error error => error

/-- Reads a string; `expected` says what is wanted if another value comes. -/
def readString (expected : String := "a string") : Reader String := fun text =>
  match skipSpace text with
  | '"' :: rest => readQuoted rest
  | other => .error (unexpected expected other)

/-- Reads a path. -/
def readPath : Reader Path := fun text =>
  (readString "path string" text).map fun (value, rest) => (Path.ofString value, rest)

/-- Reads a truth value. -/
def readBoolean : Reader Bool := fun text =>
  match skipSpace text with
  | 't' :: rest => (expectWord "rue".toList rest).map (true, ·)
  | 'f' :: rest => (expectWord "alse".toList rest).map (false, ·)
  | other => .error (unexpected "a boolean" other)

/-- Reads a value or `null`. -/
def readOptional {α : Type} (read : Reader α) : Reader (Option α) := fun text =>
  match skipSpace text with
  | 'n' :: rest => (expectWord "ull".toList rest).map (none, ·)
  | other => (read other).map fun (value, rest) => (some value, rest)

/-- Moves to the next item of an array, or to its end (`none`). -/
def nextItem (first : Bool) (text : List Char) : Except ReadError (Option (List Char)) :=
  match skipSpace text with
  | [] => .error .truncated
  | ']' :: _ => .ok none
  | ',' :: rest =>
    if first then .ok (some (',' :: rest))
    else
      match skipSpace rest with
      | [] => .error .truncated
      | ']' :: _ => .error .malformed
      | other => .ok (some other)
  | other => if first then .ok (some other) else .error .malformed

/-- Moves past the opening quote of the next name of an object, or to its end (`none`). -/
def nextName (first : Bool) (text : List Char) : Except ReadError (Option (List Char)) :=
  match skipSpace text with
  | [] => .error .truncated
  | '\x7d' :: _ => .ok none
  | ',' :: rest =>
    if first then .error .malformed
    else
      match skipSpace rest with
      | [] => .error .truncated
      | '"' :: name => .ok (some name)
      | _ => .error .malformed
  | '"' :: name => if first then .ok (some name) else .error .malformed
  | _ => .error .malformed

/-- Takes the end of an array or of an object off a text. -/
def expectClose (close : Char) (text : List Char) : Except ReadError (List Char) :=
  match skipSpace text with
  | [] => .error .truncated
  | c :: rest => if c = close then .ok rest else .error .malformed

/-- Takes the colon after a name off a text. -/
def expectColon (text : List Char) : Except ReadError (List Char) :=
  expectClose ':' text

/-- Reads the items of an array up to its end. The first argument bounds their number. -/
def readItems {α : Type} (read : Reader α) : Nat → Bool → Reader (List α)
  | 0, _, _ => .error .truncated
  | fuel + 1, first, text => do
    match ← nextItem first text with
    | none => return ([], text)
    | some text =>
      let (item, text) ← read text
      let (items, text) ← readItems read fuel false text
      return (item :: items, text)

/-- Reads an array. -/
def readList {α : Type} (read : Reader α) : Reader (List α) := fun text =>
  match skipSpace text with
  | '[' :: rest => do
    let (items, rest) ← readItems read (rest.length + 1) true rest
    return (items, ← expectClose ']' rest)
  | other => .error (unexpected "a sequence" other)

/-- Reads the members of an object up to its end. The first argument bounds their number. -/
def readBindings {β : Type} (read : Reader β) : Nat → Bool → NameMap β → Reader (NameMap β)
  | 0, _, _, _ => .error .truncated
  | fuel + 1, first, map, text => do
    match ← nextName first text with
    | none => return (map, text)
    | some text =>
      let (name, text) ← readQuoted text
      let (value, text) ← read (← expectColon text)
      readBindings read fuel false (map.insert name value) text

/-- Reads an object as a map; of two members with one name the later counts. -/
def readMap {β : Type} (read : Reader β) : Reader (NameMap β) := fun text =>
  match skipSpace text with
  | '\x7b' :: rest => do
    let (map, rest) ← readBindings read (rest.length + 1) true .empty rest
    return (map, ← expectClose '\x7d' rest)
  | other => .error (unexpected "a map" other)

/-- Takes a skipped string off a text, after the opening quote. Surrogates need no partner. -/
def skipQuoted : Nat → List Char → Except ReadError (List Char)
  | 0, _ => .error .truncated
  | _ + 1, [] => .error .truncated
  | _ + 1, '"' :: rest => .ok rest
  | _ + 1, '\\' :: [] => .error .truncated
  | fuel + 1, '\\' :: 'u' :: rest => do
    let (_, rest) ← readHexUnit rest
    skipQuoted fuel rest
  | fuel + 1, '\\' :: c :: rest =>
    if ['"', '\\', '/', 'b', 'f', 'n', 'r', 't'].contains c then skipQuoted fuel rest
    else .error .malformed
  | fuel + 1, c :: rest => if c.toNat < 0x20 then .error .malformed else skipQuoted fuel rest

/-- Takes at least one digit off a text. -/
def skipDigits (text : List Char) : Except ReadError (List Char) :=
  if (text.head?.map Char.isDigit).getD false then .ok (text.dropWhile Char.isDigit)
  else .error .malformed

/-- Takes the exponent of a skipped number off a text, if there is one. -/
def skipExponent (text : List Char) : Except ReadError (List Char) :=
  let unsigned := fun (rest : List Char) =>
    match rest with
    | '+' :: rest => skipDigits rest
    | '-' :: rest => skipDigits rest
    | rest => skipDigits rest
  match text with
  | 'e' :: rest => unsigned rest
  | 'E' :: rest => unsigned rest
  | rest => .ok rest

/-- Takes a skipped number off a text, after its sign. Its size does not matter. -/
def skipNumber (text : List Char) : Except ReadError (List Char) := do
  let rest ← skipDigits text
  if text.head? = some '0' ∧ rest.length + 1 < text.length then throw .malformed
  match rest with
  | '.' :: fraction => skipExponent (← skipDigits fraction)
  | rest => skipExponent rest

mutual

/-- Takes a skipped value off a text. The first argument bounds the number of tokens. -/
def skipValue : Nat → List Char → Except ReadError (List Char)
  | 0, _ => .error .truncated
  | fuel + 1, text =>
    match skipSpace text with
    | [] => .error .truncated
    | 'n' :: rest => expectWord "ull".toList rest
    | 't' :: rest => expectWord "rue".toList rest
    | 'f' :: rest => expectWord "alse".toList rest
    | '"' :: rest => skipQuoted (rest.length + 1) rest
    | '[' :: rest => skipItems fuel true rest
    | '\x7b' :: rest => skipMembers fuel true rest
    | '-' :: rest => skipNumber rest
    | c :: rest => if c.isDigit then skipNumber (c :: rest) else .error .malformed

/-- Takes the rest of a skipped array off a text. -/
def skipItems : Nat → Bool → List Char → Except ReadError (List Char)
  | 0, _, _ => .error .truncated
  | fuel + 1, first, text => do
    match ← nextItem first text with
    | none => expectClose ']' text
    | some text => skipItems fuel false (← skipValue fuel text)

/-- Takes the rest of a skipped object off a text. -/
def skipMembers : Nat → Bool → List Char → Except ReadError (List Char)
  | 0, _, _ => .error .truncated
  | fuel + 1, first, text => do
    match ← nextName first text with
    | none => expectClose '\x7d' text
    | some text =>
      let text ← skipQuoted (text.length + 1) text
      skipMembers fuel false (← skipValue fuel (← expectColon text))

end

/-- A field of a record that is being read: its name, whether it must be given, whether a draft
holds it already, and how its value is read into a draft. -/
structure Member (δ : Type) where
  name : String
  required : Bool
  isGiven : δ → Bool
  read : δ → Reader δ

/-- The field with this name: `held` is what a draft holds of it, and `put` puts its value into a
draft. -/
def Member.of {δ α : Type} (name : String) (required : Bool) (held : δ → Option α)
    (value : Reader α) (put : α → δ → δ) : Member δ where
  name := name
  required := required
  isGiven := fun draft => (held draft).isSome
  read := fun draft text => (value text).map fun (value, rest) => (put value draft, rest)

/-- Reads the members of an object into a draft. The first argument bounds their number. -/
def readMembers {δ : Type} (fields : List (Member δ)) : Nat → Bool → δ → Reader δ
  | 0, _, _, _ => .error .truncated
  | fuel + 1, first, draft, text => do
    match ← nextName first text with
    | none => return (draft, text)
    | some text =>
      let (name, text) ← readQuoted text
      match fields.find? (·.name == name) with
      | some field =>
        if field.isGiven draft then throw (.mismatch (.duplicateField field.name))
        let (draft, text) ← field.read draft (← expectColon text)
        readMembers fields fuel false draft text
      | none =>
        let text ← expectColon text
        readMembers fields fuel false draft (← skipValue (text.length + 1) text)

/-- Reads the items of an array, one for each field, into a draft. -/
def readPositions {δ : Type} (expected : String) :
    List (Member δ) → Nat → δ → Reader δ
  | [], _, draft, text => .ok (draft, text)
  | field :: fields, position, draft, text => do
    match ← nextItem (position == 0) text with
    | some text =>
      let (draft, text) ← field.read draft text
      readPositions expected fields (position + 1) draft text
    | none =>
      if field.required then throw (.mismatch (.tooFewItems position expected))
      readPositions expected fields (position + 1) draft text

/-- How many fields a record has, as an expectation. -/
def withElements (kind : String) (count : Nat) : String :=
  kind ++ " with " ++ toString count ++ (if count = 1 then " element" else " elements")

/-- Reads a record into a draft. -/
def readDraft {δ : Type} (kind : String) (fields : List (Member δ)) (start : δ) : Reader δ :=
  fun text =>
    match skipSpace text with
    | '\x7b' :: rest => do
      let (draft, rest) ← readMembers fields (rest.length + 1) true start rest
      match fields.find? fun field => field.required && !field.isGiven draft with
      | some field => throw (.mismatch (.missingField field.name))
      | none => return (draft, ← expectClose '\x7d' rest)
    | '[' :: rest => do
      let (draft, rest) ← readPositions (withElements kind fields.length) fields 0 start rest
      return (draft, ← expectClose ']' rest)
    | other => .error (unexpected kind other)

/-- Reads one of several names, as a string or as the name of an object's only member, whose value
is `null`. -/
def readVariant {α : Type} (names : List String) (ofName? : String → Option α) : Reader α :=
  fun text =>
    let choose := fun (name : String) =>
      match ofName? name with
      | some value => Except.ok value
      | none => .error (.mismatch (.unknownVariant name names))
    match skipSpace text with
    | [] => .error .truncated
    | '"' :: rest => do
      let (name, rest) ← readQuoted rest
      return (← choose name, rest)
    | '\x7b' :: rest => do
      let (name, rest) ← readString "variant identifier" rest
      let value ← choose name
      match skipSpace (← expectColon rest) with
      | 'n' :: rest => return (value, ← expectClose '\x7d' (← expectWord "ull".toList rest))
      | other => throw (unexpected "unit" other)
    | _ => .error .malformed

/-- Reads a whole text: one value with nothing but space around it. -/
def readAll {α : Type} (read : Reader α) (text : String) : Except ReadError α := do
  let (value, rest) ← read text.toList
  if skipSpace rest = [] then return value else throw .malformed

end Isolation.Json
