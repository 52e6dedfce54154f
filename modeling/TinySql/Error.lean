import TinySql.Schema
import TinySql.FileError
import TinySql.Json.ReadError

/-!
Errors of the engine, as causes. Four arise while parsing a statement (`isSyntax`); the others
come from the catalog (tables and columns), from converting or comparing values, and from
reading or writing the snapshot file. `Error.message` holds all the wording.
-/

namespace TinySql

/-- Why a statement, a file operation or a snapshot failed. -/
inductive Error
  /-- The parser needed `expected` and met the token described by `found`. -/
  | unexpectedToken (expected found : String)
  | unknownStatement (found : String)
  | unknownDataType (found : String)
  | invalidLength (text : String)
  | tableAlreadyExists (name : String)
  | tableNotFound (name : String)
  | columnNotFound (column table : String)
  | columnCountMismatch (expected actual : Nat)
  | valueTooLong (column : String) (max : UInt64) (value : String)
  | invalidInteger (column value : String)
  | nonNumericComparison (column value : String)
  | io (cause : FileError)
  | snapshot (cause : Json.ReadError)

namespace Error

/-- Whether the error was raised by the parser rather than by execution. -/
def isSyntax : Error → Bool
  | unexpectedToken .. | unknownStatement _ | unknownDataType _ | invalidLength _ => true
  | _ => false

/-- The error as a user reads it. -/
def message : Error → String
  | unexpectedToken expected found => "Syntax error: " ++ expected ++ ". Got: " ++ found
  | unknownStatement found => "Syntax error: unknown statement. Got: " ++ found
  | unknownDataType found => "Syntax error: unknown data type. Got: " ++ found
  | invalidLength text => "Syntax error: VARCHAR length must be a positive integer. Got: " ++ text
  | tableAlreadyExists name => "Catalog error: table '" ++ name ++ "' already exists"
  | tableNotFound name => "Catalog error: table '" ++ name ++ "' does not exist"
  | columnNotFound column table =>
    "Catalog error: column '" ++ column ++ "' not found in table '" ++ table ++ "'"
  | columnCountMismatch expected actual =>
    "Type error: expected " ++ Nat.repr expected ++ " values, got " ++ Nat.repr actual
  | valueTooLong column max value =>
    "Type error: column '" ++ column ++ "' is VARCHAR(" ++ Nat.repr max.toNat ++ ") but value '" ++
      value ++ "' is too long"
  | invalidInteger column value =>
    "Type error: column '" ++ column ++ "' is INT but value '" ++ value ++ "' is not an integer"
  | nonNumericComparison column value =>
    "Type error: cannot compare INT column '" ++ column ++ "' with non-numeric value '" ++ value ++ "'"
  | io cause => "I/O error: " ++ cause.message
  | snapshot cause => "Snapshot error: " ++ cause.message

end Error

end TinySql
