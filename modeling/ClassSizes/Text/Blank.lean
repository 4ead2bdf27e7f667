/-!
# White space

The separators of a class map line are the characters with the Unicode property `White_Space`
and the four ASCII information separators `U+001C` to `U+001F`, which that property leaves out.
-/

namespace ClassSizes

/-- Whether a character has the Unicode property `White_Space`. -/
def isWhiteSpace (character : Char) : Bool :=
  let value := character.toNat
  (0x09 ≤ value && value ≤ 0x0D) || value == 0x20 || value == 0x85 || value == 0xA0 ||
    value == 0x1680 || (0x2000 ≤ value && value ≤ 0x200A) || value == 0x2028 ||
    value == 0x2029 || value == 0x202F || value == 0x205F || value == 0x3000

/-- Whether a character separates the fields of a class map line. -/
def isBlank (character : Char) : Bool :=
  isWhiteSpace character || (0x1C ≤ character.toNat && character.toNat ≤ 0x1F)

end ClassSizes
