import CompilerSession.Text.Visible

namespace CompilerSession.Text

/-!
# Quoted characters

A message names a character between two apostrophes.  The apostrophe, the
backslash and four controls have short escapes, any other character that does
not show is given by its code point.
-/

/-- The digits of a number in base sixteen, in lower case. -/
def hexadecimal
    (number : Nat) : String :=
  String.ofList (Nat.toDigits 16 number)

/-- A character between apostrophes. -/
def quoted (character : Char) : String :=
  let inside :=
    if character = '\x00' then "\\0"
    else if character = '\t' then "\\t"
    else if character = '\n' then "\\n"
    else if character = '\r' then "\\r"
    else if character = '\'' then "\\'"
    else if character = '\\' then "\\\\"
    else if isVisible character then character.toString
    else "\\u\x7b" ++ hexadecimal character.toNat ++ "\x7d"
  "'" ++ inside ++ "'"

end CompilerSession.Text
