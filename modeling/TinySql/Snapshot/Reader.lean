import TinySql.Json.Reader
import TinySql.Snapshot

/-!
Reading a snapshot from JSON text. Each record is an object whose members may come in any
order, with unknown members skipped and a repeated or missing known member refused; it may
also be written as an array of its members' values in order. A list is an array. A column
type is `"Int"`, `{"Int": null}` or `{"Varchar": n}`. Counts and lengths are unsigned 64-bit
integers. Faults are reported at the first place where the text stops fitting, in reading
order, with the wording and position of the JSON reader.
-/

namespace TinySql.Snapshot

open Json

/-- How to read one record type: its name, its members in order, an empty partial record,
whether a member is already set, a reader of each member's value that stores it, and the
completion of a partial record, which names the first missing member when there is one. -/
structure RecordShape (σ α : Type) where
  name : String
  members : List String
  init : σ
  isSet : σ → Nat → Bool
  readMember : Nat → σ → Reader σ
  complete : σ → Except String α

/-- The next element of an array, `none` at its end; `first` tells whether none was read yet. -/
def nextElement (first : Bool) (element : Reader α) : Reader (Option α) := do
  skipBlank
  let next ← match ← peek with
    | some ']' => return none
    | some ',' =>
      if first then pure (some ',')
      else do bump; skipBlank; peek
    | some c => if first then pure (some c) else failPeek .expectedListCommaOrEnd
    | none => failPeek .eofWhileParsingList
  match next with
  | some ']' => failPeek .trailingComma
  | some _ => some <$> element
  | none => failPeek .eofWhileParsingValue

/-- The next member name of an object, `none` at its end. -/
def nextKey (first : Bool) : Reader (Option String) := do
  skipBlank
  let next ← match ← peek with
    | some '}' => return none
    | some ',' =>
      if first then pure (some ',')
      else do bump; skipBlank; peek
    | some c => if first then pure (some c) else failPeek .expectedObjectCommaOrEnd
    | none => failPeek .eofWhileParsingObject
  match next with
  | some '"' => do bump; some <$> string
  | some '}' => failPeek .trailingComma
  | some _ => failPeek .keyMustBeAString
  | none => failPeek .eofWhileParsingValue

/-- Reports what stands at the cursor as found where a value described by `expected` was
wanted, reading it first when it is a scalar. -/
def wrongKind (expected : String) : Reader α := do
  let found ← match ← peek with
    | some 'n' => do bump; keywordRest ['u', 'l', 'l']; pure Found.null
    | some 't' => do bump; keywordRest ['r', 'u', 'e']; pure (Found.bool true)
    | some 'f' => do bump; keywordRest ['a', 'l', 's', 'e']; pure (Found.bool false)
    | some '-' => do bump; Number.found <$> number false
    | some '"' => do bump; Found.string <$> string
    | some '[' => pure Found.sequence
    | some '{' => pure Found.map
    | some c => if c.isDigit then Number.found <$> number true else failPeek .expectedSomeValue
    | none => failPeek .expectedSomeValue
  failHere (.invalidType found expected)

/-- The outcome of reading a bracketed body and then its closing bracket: the body's fault
first, then the bracket's. -/
def closing (body : Except Fault α) (close : Except Fault Unit) : Reader α :=
  match body, close with
  | .ok a, .ok () => pure a
  | .error f, _ => throw f
  | .ok _, .error f => throw f

/-- Reads a string value; `accept` may refuse it, and the fault then stands after it. -/
def text (expected : String) (accept : String → Except ReadProblem α) : Reader α := placing do
  skipBlank
  match ← peek with
  | some '"' =>
    bump
    match accept (← string) with
    | .ok a => pure a
    | .error p => failLoose p
  | some _ => wrongKind expected
  | none => failPeek .eofWhileParsingValue

/-- Reads an unsigned 64-bit integer. -/
def word : Reader UInt64 := placing do
  skipBlank
  let n ← match ← peek with
    | some '-' => do bump; number false
    | some c => if c.isDigit then number true else wrongKind "usize"
    | none => failPeek .eofWhileParsingValue
  match n with
  | .unsigned n => pure (UInt64.ofNat n)
  | .negative i => failLoose (.invalidValue (.signed i) "usize")
  | .float f => failLoose (.invalidType (.float f) "usize")

def unit : Reader Unit := placing do
  skipBlank
  match ← peek with
  | some 'n' => do bump; keywordRest ['u', 'l', 'l']
  | some _ => wrongKind "unit"
  | none => failPeek .eofWhileParsingValue

/-- Reads the elements of an array after its opening bracket; `acc` holds them, last first. -/
def elements (element : Reader α) (first : Bool) (acc : List α) : Nat → Reader (List α)
  | 0 => pure acc.reverse
  | fuel + 1 => do
    match ← nextElement first element with
    | some a => elements element false (a :: acc) fuel
    | none => pure acc.reverse

def list (element : Reader α) : Reader (List α) := placing do
  skipBlank
  match ← peek with
  | some '[' =>
    bump
    let body ← attempt (elements element true [] ((← get).rest.length + 1))
    closing body (← attempt arrayEnd)
  | some _ => wrongKind "a sequence"
  | none => failPeek .eofWhileParsingValue

/-- Reads the members of an object into a partial record, after the opening brace. -/
def members (shape : RecordShape σ α) (first : Bool) (sofar : σ) : Nat → Reader α
  | 0 => failHere .eofWhileParsingObject
  | fuel + 1 => do
    match ← nextKey first with
    | none =>
      match shape.complete sofar with
      | .ok a => pure a
      | .error missing => failLoose (.missingField missing)
    | some key =>
      match shape.members.idxOf? key with
      | some i =>
        if shape.isSet sofar i then failLoose (.duplicateField key)
        else do
          colon
          members shape false (← shape.readMember i sofar) fuel
      | none => do
        colon
        skipValue
        members shape false sofar fuel

/-- The expectation of a record written as an array. -/
def RecordShape.arrayForm (shape : RecordShape σ α) : String :=
  let n := shape.members.length
  "struct " ++ shape.name ++ " with " ++ Nat.repr n ++ (if n = 1 then " element" else " elements")

/-- Reads the member values of a record written as an array, after the opening bracket. -/
def positional (shape : RecordShape σ α) (i : Nat) (sofar : σ) : List String → Reader α
  | [] =>
    match shape.complete sofar with
    | .ok a => pure a
    | .error missing => failLoose (.missingField missing)
  | _ :: more => do
    match ← nextElement (i = 0) (shape.readMember i sofar) with
    | some sofar => positional shape (i + 1) sofar more
    | none => failLoose (.invalidLength i shape.arrayForm)

/-- Reads a record, as an object or as an array. -/
def record (shape : RecordShape σ α) : Reader α := placing do
  skipBlank
  match ← peek with
  | some '{' =>
    bump
    let body ← attempt (members shape true shape.init ((← get).rest.length + 1))
    closing body (← attempt objectEnd)
  | some '[' =>
    bump
    let body ← attempt (positional shape 0 shape.init shape.members)
    closing body (← attempt arrayEnd)
  | some _ => wrongKind ("struct " ++ shape.name)
  | none => failPeek .eofWhileParsingValue

/-- The two column types by name. -/
def typeName (s : String) : Except ReadProblem Bool :=
  if s = "Int" then .ok true
  else if s = "Varchar" then .ok false
  else .error (.unknownVariant s ["Int", "Varchar"])

/-- Reads a column type: `"Int"`, or an object with the single member `Int` (null) or
`Varchar` (a length). The member's name must be a string; an object closed at once lacks a
value. -/
def dataType : Reader DataType := do
  skipBlank
  match ← peek with
  | some '{' =>
    bump
    skipBlank
    match ← peek with
    | some '"' | some '}' | none => pure ()
    | some _ => failPeek .keyMustBeAString
    let isInt ← text "variant identifier" typeName
    colon
    let t ← if isInt then do unit; pure DataType.int else DataType.varchar <$> word
    skipBlank
    match ← peek with
    | some '}' => do bump; pure t
    | some _ => failHere .expectedSomeValue
    | none => failHere .eofWhileParsingObject
  | some '"' =>
    let isInt ← text "variant identifier" typeName
    if isInt then pure .int else failLoose (.invalidType .unitVariant "newtype variant")
  | some _ => failPeek .expectedSomeValue
  | none => failPeek .eofWhileParsingValue

def name : Reader String := text "a string" .ok

/-- The shape of a column: `name` and `data_type`. -/
def columnShape : RecordShape (Option String × Option DataType) Column where
  name := "ColumnDefinition"
  members := ["name", "data_type"]
  init := (none, none)
  isSet p i := if i = 0 then p.1.isSome else p.2.isSome
  readMember i p := if i = 0 then do pure (some (← name), p.2) else do pure (p.1, some (← dataType))
  complete
    | (some n, some t) => .ok ⟨n, t⟩
    | (none, _) => .error "name"
    | (_, none) => .error "data_type"

/-- The shape of a schema: `table_name` and `columns`. -/
def schemaShape : RecordShape (Option String × Option (List Column)) Schema where
  name := "TableSchema"
  members := ["table_name", "columns"]
  init := (none, none)
  isSet p i := if i = 0 then p.1.isSome else p.2.isSome
  readMember i p :=
    if i = 0 then do pure (some (← name), p.2) else do pure (p.1, some (← list (record columnShape)))
  complete
    | (some n, some cs) => .ok ⟨n, cs⟩
    | (none, _) => .error "table_name"
    | (_, none) => .error "columns"

/-- The shape of a table entry: `schema` and `row_count`. -/
def entryShape : RecordShape (Option Schema × Option UInt64) TableEntry where
  name := "TableSnapshot"
  members := ["schema", "row_count"]
  init := (none, none)
  isSet p i := if i = 0 then p.1.isSome else p.2.isSome
  readMember i p :=
    if i = 0 then do pure (some (← record schemaShape), p.2) else do pure (p.1, some (← word))
  complete
    | (some s, some n) => .ok ⟨s, n⟩
    | (none, _) => .error "schema"
    | (_, none) => .error "row_count"

/-- The shape of a snapshot: `tables`. -/
def snapshotShape : RecordShape (Option (List TableEntry)) Snapshot where
  name := "Snapshot"
  members := ["tables"]
  init := none
  isSet p _ := p.isSome
  readMember _ _ := do pure (some (← list (record entryShape)))
  complete
    | some ts => .ok ⟨ts⟩
    | none => .error "tables"

/-- The line, from one, and the byte column of a byte offset in a text. -/
def positionOf (text : String) (offset : Nat) : Position :=
  let rec walk : List Char → Nat → Nat → Nat → Nat × Nat
    | [], _, line, start => (line, start)
    | c :: cs, pos, line, start =>
      if pos < offset then
        if c = '\n' then walk cs (pos + 1) (line + 1) (pos + 1) else walk cs (pos + c.utf8Size) line start
      else (line, start)
  let (line, start) := walk text.toList 0 1 0
  ⟨line, offset - start⟩

/-- Reads a snapshot from JSON text; nothing but blanks may follow it. -/
def ofJson (text : String) : Except Json.ReadError Snapshot :=
  let whole : Reader Snapshot := do
    let s ← record snapshotShape
    skipBlank
    if (← peek).isSome then failPeek .trailingCharacters
    pure s
  match whole.run ⟨text.toList, 0⟩ with
  | .ok s _ => .ok s
  | .error f _ => .error ⟨f.problem, f.offset.map (positionOf text)⟩

end TinySql.Snapshot
