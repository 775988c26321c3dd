/-!
# Blank characters

The characters with the Unicode property `White_Space`, and texts trimmed of them at both ends.
-/

namespace Isolation.Text

/-- Whether a character has the Unicode property `White_Space`. -/
def isBlank (c : Char) : Bool :=
  let code := c.toNat
  (9 ≤ code && code ≤ 13) || code == 0x20 || code == 0x85 || code == 0xA0 || code == 0x1680 ||
    (0x2000 ≤ code && code ≤ 0x200A) || code == 0x2028 || code == 0x2029 || code == 0x202F ||
    code == 0x205F || code == 0x3000

/-- The text without the characters satisfying `drop` at either end. -/
def trimBoth (drop : Char → Bool) (text : List Char) : List Char :=
  ((text.dropWhile drop).reverse.dropWhile drop).reverse

/-- The text without blank characters at either end. -/
def trim (text : String) : String :=
  .ofList (trimBoth isBlank text.toList)

/-- Whether a text holds nothing but blank characters. -/
def isAllBlank (text : String) : Bool :=
  text.toList.all isBlank

end Isolation.Text
