/-!
# Punycode

A label written in ASCII: first its ASCII characters, then a dash, and then numbers that tell, in
the order of code points, how far on and where the other characters are to be inserted. A number is
written least digit first; a digit below the threshold of its place ends it. The thresholds follow
the size of the numbers before.
-/

namespace Isolation.Url.Punycode

/-- The dash between the ASCII characters and the numbers. -/
def delimiter : Char := '-'

/-- The first code point outside ASCII. -/
def firstCode : Nat := 0x80

/-- The bias before the first number. -/
def firstBias : Nat := 72

/-- The threshold of a place: 1, 26, or a value between that depends on the bias. -/
def threshold (bias place : Nat) : Nat :=
  min 26 (max 1 (36 * (place + 1) - bias))

/-- A threshold is at least one. -/
theorem one_le_threshold (bias place : Nat) : 1 ≤ threshold bias place := by
  unfold threshold; omega

/-- How often a delta is divided until it is small, times 36, and what is left of it. -/
def shrink (delta scale : Nat) : Nat × Nat :=
  if 455 < delta then shrink (delta / 35) (scale + 36) else (scale, delta)
termination_by delta
decreasing_by exact Nat.div_lt_self (by omega) (by omega)

/-- The bias after a number, when so many characters are placed. -/
def adapt (delta placed : Nat) (first : Bool) : Nat :=
  let damped := if first then delta / 700 else delta / 2
  let (scale, rest) := shrink (damped + damped / placed) 0
  scale + 36 * rest / (rest + 38)

/-- The character of a digit: letters before figures. -/
def digitChar (digit : Nat) : Char :=
  if digit < 26 then Char.ofNat ('a'.toNat + digit) else Char.ofNat ('0'.toNat + (digit - 26))

/-- The digit of a character. -/
def digitOf? (c : Char) : Option Nat :=
  if 'a' ≤ c ∧ c ≤ 'z' then some (c.toNat - 'a'.toNat)
  else if 'A' ≤ c ∧ c ≤ 'Z' then some (c.toNat - 'A'.toNat)
  else if '0' ≤ c ∧ c ≤ '9' then some (c.toNat - '0'.toNat + 26)
  else none

/-- The digits of a number, from a place on. -/
def numberChars (bias place number : Nat) : List Char :=
  let limit := threshold bias place
  if number < limit then [digitChar number]
  else
    digitChar (limit + (number - limit) % (36 - limit)) ::
      numberChars bias (place + 1) ((number - limit) / (36 - limit))
termination_by number
decreasing_by
  have := one_le_threshold bias place
  exact Nat.lt_of_le_of_lt (Nat.div_le_self _ _) (by omega)

/-- What is written so far, the bias, the number that is being counted, and how many characters are
placed. -/
structure Writing where
  written : List Char := []
  bias : Nat := firstBias
  delta : Nat := 0
  placed : Nat

namespace Writing

/-- Passes one character of the label while the characters with this code point are placed. -/
def pass (code start : Nat) (writing : Writing) (c : Char) : Writing :=
  if c.toNat < code then { writing with delta := writing.delta + 1 }
  else if c.toNat = code then
    { written := writing.written ++ numberChars writing.bias 0 writing.delta
      bias := adapt writing.delta (writing.placed + 1) (writing.placed == start)
      delta := 0
      placed := writing.placed + 1 }
  else writing

/-- Places the characters with each of these code points, when the next one possible is `next`. -/
def place (label : List Char) (start : Nat) : Nat → List Nat → Writing → Writing
  | _, [], writing => writing
  | next, code :: codes, writing =>
    let counted := { writing with delta := writing.delta + (code - next) * (writing.placed + 1) }
    let passed := label.foldl (pass code start) counted
    place label start (code + 1) codes { passed with delta := passed.delta + 1 }

end Writing

/-- A label in ASCII. -/
def encode (label : List Char) : List Char :=
  let basic := label.filter fun c => c.toNat < firstCode
  let codes := ((label.map Char.toNat).filter (firstCode ≤ ·)).mergeSort.eraseDups
  let writing := Writing.place label basic.length firstCode codes { placed := basic.length }
  (if basic = [] then [] else basic ++ [delimiter]) ++ writing.written

/-- Reads a number, from a place on, and adds it to a total; what follows is shorter. -/
def readNumber (bias : Nat) : (text : List Char) → (place weight total : Nat) →
    Option (Nat × { rest : List Char // rest.length < text.length })
  | [], _, _, _ => none
  | c :: rest, place, weight, total =>
    match digitOf? c with
    | none => none
    | some digit =>
      if digit < threshold bias place then some (total + digit * weight, ⟨rest, by simp⟩)
      else
        match readNumber bias rest (place + 1) (weight * (36 - threshold bias place))
            (total + digit * weight) with
        | none => none
        | some (number, ⟨rest, shorter⟩) => some (number, ⟨rest, by simp; omega⟩)

/-- Inserts the characters that numbers tell into those placed before. -/
def insertAll (bias code position : Nat) (label text : List Char) : Option (List Char) :=
  match text with
  | [] => some label
  | c :: rest =>
    match readNumber bias (c :: rest) 0 1 position with
    | none => none
    | some (number, following) =>
      let places := label.length + 1
      let next := code + number / places
      if next.isValidChar then
        insertAll (adapt (number - position) places (position == 0)) next (number % places + 1)
          (label.insertIdx (number % places) (Char.ofNat next)) following.1
      else none
termination_by text.length
decreasing_by exact following.2

/-- The label that a text in ASCII writes. -/
def decode? (text : List Char) : Option (List Char) :=
  match (text.reverse.dropWhile (· ≠ delimiter)).reverse.dropLast with
  | [] => insertAll firstBias firstCode 0 [] text
  | basic => insertAll firstBias firstCode 0 basic (text.drop (basic.length + 1))

end Isolation.Url.Punycode
