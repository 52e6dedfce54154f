import TinySql.Text.Upper

/-!
Tokens of the SQL dialect: keywords, names, literals and symbols, each with its text and the
offset of its first character. A word is a keyword when its full uppercase spells one of the
twelve keywords; `DELETE` has a kind but no spelling, so no text ever lexes to it.
-/

namespace TinySql.Sql

/-- What a token is. -/
inductive TokenKind
  | create | table | insert | into | values | select | «from» | «where» | update | set | delete
  | int | varchar
  | identifier | string | number
  | leftParen | rightParen | comma | semicolon | asterisk
  | equals | notEquals | greaterThan | lessThan | greaterEqual | lessEqual
  | eof | unknown
  deriving DecidableEq, Repr

namespace TokenKind

/-- The name under which a kind is shown. -/
def name : TokenKind → String
  | create => "CREATE" | table => "TABLE" | insert => "INSERT" | into => "INTO"
  | values => "VALUES" | select => "SELECT" | «from» => "FROM" | «where» => "WHERE"
  | update => "UPDATE" | set => "SET" | delete => "DELETE" | int => "INT"
  | varchar => "VARCHAR" | identifier => "IDENTIFIER" | string => "STRING"
  | number => "NUMBER" | leftParen => "LEFT_PAREN" | rightParen => "RIGHT_PAREN"
  | comma => "COMMA" | semicolon => "SEMICOLON" | asterisk => "ASTERISK"
  | equals => "EQUALS" | notEquals => "NOT_EQUALS" | greaterThan => "GREATER_THAN"
  | lessThan => "LESS_THAN" | greaterEqual => "GREATER_EQUAL" | lessEqual => "LESS_EQUAL"
  | eof => "EOF" | unknown => "UNKNOWN"

/-- Every kind, in the order of its declaration. -/
def all : List TokenKind :=
  [create, table, insert, into, values, select, «from», «where», update, set, delete, int,
    varchar, identifier, string, number, leftParen, rightParen, comma, semicolon, asterisk,
    equals, notEquals, greaterThan, lessThan, greaterEqual, lessEqual, eof, unknown]

/-- The kind shown under a name. -/
def ofName? (s : String) : Option TokenKind := all.find? (·.name == s)

/-- The keyword kind of an uppercase spelling. -/
def ofSpelling? : String → Option TokenKind
  | "CREATE" => some create | "TABLE" => some table | "INSERT" => some insert
  | "INTO" => some into | "VALUES" => some values | "SELECT" => some select
  | "FROM" => some «from» | "WHERE" => some «where» | "UPDATE" => some update
  | "SET" => some set | "INT" => some int | "VARCHAR" => some varchar
  | _ => none

/-- The keyword a word spells in any letter case, by its full Unicode uppercase. -/
def ofKeyword? (word : String) : Option TokenKind :=
  (Text.upperLetters? word).bind ofSpelling?

example : ofKeyword? "VarChar" = some varchar ∧ ofKeyword? "inſert" = some insert ∧
    ofKeyword? "delete" = none ∧ ofKeyword? "users" = none := by
  decide

end TokenKind

/-- A token: its kind, its text, and the offset in characters of its first character. -/
structure Token where
  kind : TokenKind
  text : String
  pos : Nat
  deriving DecidableEq, Repr

namespace Token

def eof (pos : Nat) : Token := ⟨.eof, "", pos⟩

/-- How an error names the token: `EOF` for an end of input, whatever its text, and the
text otherwise. -/
def describe (t : Token) : String := if t.kind = .eof then "EOF" else t.text

/-- The token as shown to a user: `Token(KIND, 'text')`, with the text as it is. -/
def display (t : Token) : String := "Token(" ++ t.kind.name ++ ", '" ++ t.text ++ "')"

end Token

end TinySql.Sql
