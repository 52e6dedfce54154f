import TinySql.Text.Visible

/-!
Texts written between double quotes so that every character can be seen: a quote, a backslash,
a tab, a line feed, a carriage return and NUL are written with a backslash and a letter;
extending marks and characters with no visible form are written as `\u` with the hexadecimal
code point in braces; everything else stands as itself.
-/

namespace TinySql.Text

/-- The lowercase hexadecimal digits of a number. -/
def hexDigits (n : Nat) : String := String.ofList (Nat.toDigits 16 n)

/-- How one character is written inside a quoted text. -/
def quoteChar (c : Char) : String :=
  match c with
  | '\x00' => "\\0"
  | '\t' => "\\t"
  | '\r' => "\\r"
  | '\n' => "\\n"
  | '\\' => "\\\\"
  | '"' => "\\\""
  | c =>
    if isExtending c || !isVisible c then "\\u\x7b" ++ hexDigits c.toNat ++ "\x7d"
    else String.singleton c

/-- A text between double quotes, each character written as `quoteChar` writes it. -/
def quote (s : String) : String := "\"" ++ String.join (s.toList.map quoteChar) ++ "\""

example : quote "a\"b\\c\n" = "\"a\\\"b\\\\c\\n\"" ∧ quote "é'" = "\"é'\"" := by decide +kernel

end TinySql.Text
