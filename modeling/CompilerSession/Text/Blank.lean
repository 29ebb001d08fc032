namespace CompilerSession.Text

/-!
# Blank characters

A blank is a character with the property `White_Space`.  The zero-width space
and the byte-order mark have no such property, and neither have the separators
below the space.
-/

/-- Whether a character is white space. -/
def isBlank (character : Char) : Bool :=
  let point := character.toNat
  (0x9 ≤ point && point ≤ 0xD) || point == 0x20 || point == 0x85 ||
    point == 0xA0 ||
    point == 0x1680 || (0x2000 ≤ point && point ≤ 0x200A) || point == 0x2028 ||
    point == 0x2029 || point == 0x202F || point == 0x205F || point == 0x3000

/-- A text without the blanks at its two ends. -/
def trim (text : List Char) : List Char :=
  ((text.dropWhile isBlank).reverse.dropWhile isBlank).reverse

end CompilerSession.Text
