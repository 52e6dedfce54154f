import TinySql.Sql.Token
import TinySql.Text.Blank
import TinySql.Text.Alphanumeric

/-!
The lexer. Blanks are skipped between tokens; at each other point the longest token that
fits is taken: a word (an ASCII letter or `_`, then letters, digits or `_` in the Unicode
sense), a run of ASCII digits, a quoted string (no escapes), one of the symbols
`<> <= >= < > = ( ) , ; *`, and otherwise one character of kind UNKNOWN. A quote with no
closing quote makes one UNKNOWN token of everything after it. The last token is an EOF at the
offset just past the input.
-/

namespace TinySql.Sql

/-- Whether a character may stand inside a word after its first character. -/
def isWordChar (c : Char) : Bool := Text.isAlphanumeric c || c = '_'

/-- Whether a character may start a word. -/
def isWordStart (c : Char) : Bool := c.isAlpha || c = '_'

/-- The token that starts with `c`, at offset `pos`, where `cs` follows `c`; and the
characters after the token. -/
def readToken (pos : Nat) (c : Char) (cs : List Char) : Token × List Char :=
  match c with
  | '(' => (⟨.leftParen, "(", pos⟩, cs)
  | ')' => (⟨.rightParen, ")", pos⟩, cs)
  | ',' => (⟨.comma, ",", pos⟩, cs)
  | ';' => (⟨.semicolon, ";", pos⟩, cs)
  | '*' => (⟨.asterisk, "*", pos⟩, cs)
  | '=' => (⟨.equals, "=", pos⟩, cs)
  | '<' =>
    match cs with
    | '>' :: rest => (⟨.notEquals, "<>", pos⟩, rest)
    | '=' :: rest => (⟨.lessEqual, "<=", pos⟩, rest)
    | _ => (⟨.lessThan, "<", pos⟩, cs)
  | '>' =>
    match cs with
    | '=' :: rest => (⟨.greaterEqual, ">=", pos⟩, rest)
    | _ => (⟨.greaterThan, ">", pos⟩, cs)
  | '\'' =>
    let body := String.ofList (cs.takeWhile (· ≠ '\''))
    match cs.dropWhile (· ≠ '\'') with
    | _ :: rest => (⟨.string, body, pos⟩, rest)
    | [] => (⟨.unknown, body, pos⟩, [])
  | c =>
    if c.isDigit then
      (⟨.number, String.ofList (c :: cs.takeWhile Char.isDigit), pos⟩, cs.dropWhile Char.isDigit)
    else if isWordStart c then
      let text := String.ofList (c :: cs.takeWhile isWordChar)
      (⟨(TokenKind.ofKeyword? text).getD .identifier, text, pos⟩, cs.dropWhile isWordChar)
    else (⟨.unknown, String.singleton c, pos⟩, cs)

theorem length_dropWhile_le (p : Char → Bool) (cs : List Char) :
    (cs.dropWhile p).length ≤ cs.length :=
  (List.dropWhile_suffix p).length_le

theorem readToken_rest_length_le (pos : Nat) (c : Char) (cs : List Char) :
    (readToken pos c cs).2.length ≤ cs.length := by
  unfold readToken
  split
  all_goals (try split) <;> (try split) <;> simp_all [length_dropWhile_le]
  rename_i h
  have := length_dropWhile_le (fun x => !decide (x = '\'')) cs
  rw [h] at this
  simp only [List.length_cons] at this
  omega

/-- Every token of `cs`, which starts at offset `pos`, up to and including the EOF; UNKNOWN
tokens are kept. -/
def lexFrom (pos : Nat) (cs : List Char) : List Token :=
  match h : cs.dropWhile Text.isBlank with
  | [] => [Token.eof (pos + cs.length)]
  | c :: more =>
    let start := pos + (cs.length - (more.length + 1))
    let step := readToken start c more
    step.1 :: lexFrom (start + (more.length + 1 - step.2.length)) step.2
termination_by cs.length
decreasing_by
  have h1 := readToken_rest_length_le (pos + (cs.length - (more.length + 1))) c more
  have h2 : (c :: more).length ≤ cs.length := h ▸ (List.dropWhile_suffix _).length_le
  simp only [List.length_cons] at h2
  omega

/-- The tokens of a text, UNKNOWN ones included, ending with one EOF. -/
def lex (s : String) : List Token := lexFrom 0 s.toList

/-- The tokens of a text without the UNKNOWN ones, ending with one EOF. -/
def tokenize (s : String) : List Token := (lex s).filter (·.kind ≠ .unknown)

end TinySql.Sql
