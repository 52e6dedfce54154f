import TinySql.Text.Quoted
import TinySql.Decimal.Shortest

/-!
Why a JSON text could not be read as a value of the expected shape, and where. A problem is
either in the syntax (an unexpected end, a missing colon, a bad escape or number) or in the
shape (a value of the wrong kind, a missing or repeated field, an unknown variant). A position
is a line, counted from one, and a column counted in bytes from the start of that line.
-/

namespace TinySql.Json

/-- What the reader found where a value of another kind was expected. -/
inductive Found
  | null
  | bool (b : Bool)
  | unsigned (n : Nat)
  | signed (i : Int)
  | float (f : Float)
  | string (s : String)
  | sequence
  | map
  | unitVariant

/-- A double as messages show it: the shortest decimal, positionally with a point and at least
one digit after it when `1e-5 ≤ |x| < 1e16`, and otherwise with one digit before the point and
a signed exponent after `e` (`1e+16`, `1.5e-7`). -/
def floatText (f : Float) : String :=
  let b := Decimal.Binary.ofFloat f
  let sign := if b.negative then "-" else ""
  if b.m = 0 then sign ++ "0.0"
  else
    let (d, k) := Decimal.shortest b
    let digits := Nat.repr d
    let len : Int := digits.length
    let kk := len + k
    let exponent := Nat.repr (kk - 1).natAbs
    let body :=
      if 0 ≤ k ∧ kk ≤ 16 then digits ++ String.ofList (List.replicate k.toNat '0') ++ ".0"
      else if 0 < kk ∧ kk ≤ 16 then
        String.ofList (digits.toList.take kk.toNat) ++ "." ++ String.ofList (digits.toList.drop kk.toNat)
      else if -5 < kk ∧ kk ≤ 0 then "0." ++ String.ofList (List.replicate (-kk).toNat '0') ++ digits
      else
        let mark := if kk - 1 < 0 then "e-" else "e+"
        if len = 1 then digits ++ mark ++ exponent
        else
          String.ofList (digits.toList.take 1) ++ "." ++ String.ofList (digits.toList.drop 1) ++
            mark ++ exponent
    sign ++ body

def Found.text : Found → String
  | .null => "null"
  | .bool b => "boolean `" ++ (if b then "true" else "false") ++ "`"
  | .unsigned n => "integer `" ++ Nat.repr n ++ "`"
  | .signed i => "integer `" ++ (if i < 0 then "-" else "") ++ Nat.repr i.natAbs ++ "`"
  | .float f => "floating point `" ++ floatText f ++ "`"
  | .string s => "string " ++ Text.quote s
  | .sequence => "sequence"
  | .map => "map"
  | .unitVariant => "unit variant"

/-- Why reading stopped. -/
inductive ReadProblem
  | eofWhileParsingList
  | eofWhileParsingObject
  | eofWhileParsingString
  | eofWhileParsingValue
  | expectedColon
  | expectedListCommaOrEnd
  | expectedObjectCommaOrEnd
  | expectedSomeIdent
  | expectedSomeValue
  | invalidEscape
  | invalidNumber
  | numberOutOfRange
  | controlCharacterWhileParsingString
  | keyMustBeAString
  | loneLeadingSurrogateInHexEscape
  | trailingComma
  | trailingCharacters
  | unexpectedEndOfHexEscape
  | invalidType (found : Found) (expected : String)
  | invalidValue (found : Found) (expected : String)
  | invalidLength (length : Nat) (expected : String)
  | unknownVariant (name : String) (expected : List String)
  | missingField (name : String)
  | duplicateField (name : String)

/-- A list of names as `a`, `a` or `b`, or one of `a`, `b`, `c`. -/
def oneOf (names : List String) : String :=
  let ticked := names.map fun n => "`" ++ n ++ "`"
  match ticked with
  | [] => "nothing"
  | [a] => a
  | [a, b] => a ++ " or " ++ b
  | _ => "one of " ++ ", ".intercalate ticked

def ReadProblem.message : ReadProblem → String
  | .eofWhileParsingList => "EOF while parsing a list"
  | .eofWhileParsingObject => "EOF while parsing an object"
  | .eofWhileParsingString => "EOF while parsing a string"
  | .eofWhileParsingValue => "EOF while parsing a value"
  | .expectedColon => "expected `:`"
  | .expectedListCommaOrEnd => "expected `,` or `]`"
  | .expectedObjectCommaOrEnd => "expected `,` or `\x7d`"
  | .expectedSomeIdent => "expected ident"
  | .expectedSomeValue => "expected value"
  | .invalidEscape => "invalid escape"
  | .invalidNumber => "invalid number"
  | .numberOutOfRange => "number out of range"
  | .controlCharacterWhileParsingString =>
    "control character (\\u0000-\\u001F) found while parsing a string"
  | .keyMustBeAString => "key must be a string"
  | .loneLeadingSurrogateInHexEscape => "lone leading surrogate in hex escape"
  | .trailingComma => "trailing comma"
  | .trailingCharacters => "trailing characters"
  | .unexpectedEndOfHexEscape => "unexpected end of hex escape"
  | .invalidType found expected => "invalid type: " ++ found.text ++ ", expected " ++ expected
  | .invalidValue found expected => "invalid value: " ++ found.text ++ ", expected " ++ expected
  | .invalidLength n expected => "invalid length " ++ Nat.repr n ++ ", expected " ++ expected
  | .unknownVariant name expected =>
    if expected.isEmpty then "unknown variant `" ++ name ++ "`, there are no variants"
    else "unknown variant `" ++ name ++ "`, expected " ++ oneOf expected
  | .missingField name => "missing field `" ++ name ++ "`"
  | .duplicateField name => "duplicate field `" ++ name ++ "`"

/-- A place in a text: the line, from one, and the column in bytes within it. -/
structure Position where
  line : Nat
  column : Nat
  deriving DecidableEq, Repr

/-- A problem and, once known, where it arose. -/
structure ReadError where
  problem : ReadProblem
  position : Option Position

/-- The error's wording, with its place when it has one. -/
def ReadError.message (e : ReadError) : String :=
  match e.position with
  | some p => e.problem.message ++ " at line " ++ Nat.repr p.line ++ " column " ++ Nat.repr p.column
  | none => e.problem.message

end TinySql.Json
