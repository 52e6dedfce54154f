/-!
Uppercasing as far as keywords need it. A word is a keyword when its full Unicode uppercase
is one of the keyword spellings, which are ASCII capital letters only. So only characters
whose uppercase is made of ASCII capitals matter: the ASCII letters, and ten others whose
uppercase expands (`ß` to `SS`, `ſ` to `S`, `ı` to `I`, and the Latin ligatures of U+FB00 to
U+FB06).
-/

namespace TinySql.Text

/-- The uppercase of a character when it consists of ASCII capital letters only. -/
def upperLettersOfChar? (c : Char) : Option String :=
  if c.isLower then some (String.singleton c.toUpper)
  else if c.isUpper then some (String.singleton c)
  else
    match c.toNat with
    | 0x00DF => some "SS"
    | 0x0131 => some "I"
    | 0x017F => some "S"
    | 0xFB00 => some "FF"
    | 0xFB01 => some "FI"
    | 0xFB02 => some "FL"
    | 0xFB03 => some "FFI"
    | 0xFB04 => some "FFL"
    | 0xFB05 => some "ST"
    | 0xFB06 => some "ST"
    | _ => none

/-- The uppercase of a text when it consists of ASCII capital letters only, and `none` when
the uppercase holds any other character. -/
def upperLetters? (s : String) : Option String :=
  (s.toList.mapM upperLettersOfChar?).map String.join

example : upperLetters? "inſert" = some "INSERT" ∧ upperLetters? "ﬁnd" = some "FIND" ∧
    upperLetters? "café" = none := by
  decide

end TinySql.Text
