import TinySql.Text.Quoted

/-!
JSON string literals as this library writes them: a quote and a backslash are escaped with a
backslash, the control characters below U+0020 are written `\b`, `\t`, `\n`, `\f`, `\r` or
`\u00XX` with lowercase hexadecimal, and every other character, DEL and non-ASCII included,
stands as itself.
-/

namespace TinySql.Json

/-- How one character is written inside a JSON string. -/
def escapeChar (c : Char) : String :=
  match c with
  | '"' => "\\\""
  | '\\' => "\\\\"
  | '\n' => "\\n"
  | '\r' => "\\r"
  | '\t' => "\\t"
  | '\x08' => "\\b"
  | '\x0c' => "\\f"
  | c =>
    if c.toNat < 0x20 then
      "\\u00" ++ (if c.toNat < 0x10 then "0" else "") ++ Text.hexDigits c.toNat
    else String.singleton c

/-- A JSON string literal holding the text. -/
def stringLiteral (s : String) : String := "\"" ++ String.join (s.toList.map escapeChar) ++ "\""

example : stringLiteral "a\"\\\n\x01\x7f" = "\"a\\\"\\\\\\n\\u0001\x7f\"" := by decide

end TinySql.Json
