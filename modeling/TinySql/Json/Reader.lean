import TinySql.Json.ReadError

/-!
Reading JSON text one piece at a time, in the manner of a streaming reader: the caller asks
for the kind of value it expects next, so a value of the wrong kind is reported where it
stands, before any later fault of the text. This module holds the pieces that do not depend
on the expected shape: blanks, punctuation, strings with their escapes, numbers, and skipping
a whole value of any kind. Offsets count bytes of the UTF-8 text.

A fault has an offset once its place is known. Some faults are raised without one (a missing
field, say) and take the offset of the reader when the enclosing object or array has been
closed, which is why a failed read keeps the reader's position (`EStateM`).
-/

namespace TinySql.Json

/-- The unread characters and the number of bytes read so far. -/
structure Cursor where
  rest : List Char
  offset : Nat

/-- A problem and, once known, its byte offset. -/
structure Fault where
  problem : ReadProblem
  offset : Option Nat

/-- A reader: it moves the cursor and yields a value, or stops with a fault, keeping the
cursor where it stopped. -/
abbrev Reader := EStateM Fault Cursor

/-- The number of bytes of characters in UTF-8. -/
def byteLength (cs : List Char) : Nat := cs.foldl (fun n c => n + c.utf8Size) 0

/-- The characters JSON allows between tokens. -/
def isJsonBlank (c : Char) : Bool := c = ' ' || c = '\n' || c = '\t' || c = '\r'

def peek : Reader (Option Char) := do return (← get).rest.head?

def bump : Reader Unit :=
  modify fun c => match c.rest with
    | ch :: r => ⟨r, c.offset + ch.utf8Size⟩
    | [] => c

def skipBlank : Reader Unit :=
  modify fun c => ⟨c.rest.dropWhile isJsonBlank, c.offset + byteLength (c.rest.takeWhile isJsonBlank)⟩

def failAt (p : ReadProblem) (offset : Nat) : Reader α := throw ⟨p, some offset⟩

/-- Stops with a problem just after what has been read. -/
def failHere (p : ReadProblem) : Reader α := do failAt p (← get).offset

/-- Stops with a problem at the next byte, as when it was looked at but not read. -/
def failPeek (p : ReadProblem) : Reader α := do
  let c ← get
  failAt p (if c.rest.isEmpty then c.offset else c.offset + 1)

/-- Stops with a problem after one more byte, as when a single byte was read and refused. -/
def failNextByte (p : ReadProblem) : Reader α := do failAt p ((← get).offset + 1)

/-- Stops with a problem whose place is not yet known. -/
def failLoose (p : ReadProblem) : Reader α := throw ⟨p, none⟩

/-- Runs a reader; a fault without a place takes the reader's offset when it stopped. -/
def placing (r : Reader α) : Reader α :=
  tryCatch r fun f => do
    match f.offset with
    | some _ => throw f
    | none => failHere f.problem

/-- Runs a reader and hands back its outcome, fault included, keeping the cursor where it
stopped. -/
def attempt (r : Reader α) : Reader (Except Fault α) :=
  tryCatch (Except.ok <$> r) fun f => pure (.error f)

/-- Reads the rest of a keyword whose first letter has been read. -/
def keywordRest : List Char → Reader Unit
  | [] => pure ()
  | k :: ks => do
    match ← peek with
    | none => failHere .eofWhileParsingValue
    | some c => if c = k then do bump; keywordRest ks else failNextByte .expectedSomeIdent

/-! ### Strings -/

def hexValue? (c : Char) : Option Nat :=
  if '0' ≤ c ∧ c ≤ '9' then some (c.toNat - '0'.toNat)
  else if 'a' ≤ c ∧ c ≤ 'f' then some (c.toNat - 'a'.toNat + 10)
  else if 'A' ≤ c ∧ c ≤ 'F' then some (c.toNat - 'A'.toNat + 10)
  else none

/-- Reads the four hexadecimal digits of a `\u` escape. With fewer than four bytes left the
text ends inside the string; otherwise four bytes are taken and must be hexadecimal digits. -/
def hexQuad : Reader Nat := do
  let c ← get
  let digits := (c.rest.take 4).filterMap hexValue?
  match c.rest, digits with
  | _ :: _ :: _ :: _ :: r, [a, b, d, e] =>
    set (⟨r, c.offset + 4⟩ : Cursor)
    pure (((a * 16 + b) * 16 + d) * 16 + e)
  | _, _ =>
    let left := byteLength c.rest
    if left < 4 then
      set (⟨[], c.offset + left⟩ : Cursor)
      failHere .eofWhileParsingString
    else failAt .invalidEscape (c.offset + 4)

/-- The next character of an escape, or the end of the text inside a string. -/
def escapeChar? : Reader Char := do
  match ← peek with
  | none => failHere .eofWhileParsingString
  | some c => pure c

/-- Reads a `\u` escape whose `\u` has been read: one code unit, or a surrogate pair written
as two escapes. A lone surrogate is refused. -/
def unicodeEscape : Reader Char := do
  let n ← hexQuad
  if 0xDC00 ≤ n ∧ n ≤ 0xDFFF then failHere .loneLeadingSurrogateInHexEscape
  else if n < 0xD800 ∨ 0xDBFF < n then pure (Char.ofNat n)
  else
    let c ← escapeChar?
    if c ≠ '\\' then failNextByte .unexpectedEndOfHexEscape
    else
      bump
      let c ← escapeChar?
      if c ≠ 'u' then failNextByte .unexpectedEndOfHexEscape
      else
        bump
        let n2 ← hexQuad
        if n2 < 0xDC00 ∨ 0xDFFF < n2 then failHere .loneLeadingSurrogateInHexEscape
        else pure (Char.ofNat ((n - 0xD800) * 0x400 + (n2 - 0xDC00) + 0x10000))

/-- Reads an escape whose backslash has been read, and the character it stands for. -/
def escape : Reader Char := do
  let c ← escapeChar?
  match c with
  | '"' => do bump; pure '"'
  | '\\' => do bump; pure '\\'
  | '/' => do bump; pure '/'
  | 'b' => do bump; pure '\x08'
  | 'f' => do bump; pure '\x0c'
  | 'n' => do bump; pure '\n'
  | 'r' => do bump; pure '\r'
  | 't' => do bump; pure '\t'
  | 'u' => do bump; unicodeEscape
  | _ => failNextByte .invalidEscape

/-- Reads the characters of a string up to its closing quote, which is read too; `acc` holds
the characters so far, last first. -/
def stringChars (acc : List Char) : Nat → Reader String
  | 0 => failHere .eofWhileParsingString
  | fuel + 1 => do
    match ← peek with
    | none => failHere .eofWhileParsingString
    | some '"' => do bump; pure (String.ofList acc.reverse)
    | some '\\' => do
      bump
      let c ← escape
      stringChars (c :: acc) fuel
    | some c =>
      bump
      if c.toNat < 0x20 then failHere .controlCharacterWhileParsingString
      else stringChars (c :: acc) fuel

/-- Reads a string whose opening quote has been read. -/
def string : Reader String := do stringChars [] ((← get).rest.length + 1)

/-- Reads an escape of a skipped string: any `\u` with four hexadecimal digits passes. -/
def skipEscape : Reader Unit := do
  let c ← escapeChar?
  if c = '"' ∨ c = '\\' ∨ c = '/' ∨ c = 'b' ∨ c = 'f' ∨ c = 'n' ∨ c = 'r' ∨ c = 't' then bump
  else if c = 'u' then do bump; discard hexQuad
  else failNextByte .invalidEscape

/-- Skips the rest of a string whose opening quote has been read. A control character stops
the skip where it stands. -/
def skipStringChars : Nat → Reader Unit
  | 0 => failHere .eofWhileParsingString
  | fuel + 1 => do
    match ← peek with
    | none => failHere .eofWhileParsingString
    | some '"' => bump
    | some '\\' => do bump; skipEscape; skipStringChars fuel
    | some c =>
      if c.toNat < 0x20 then failHere .controlCharacterWhileParsingString
      else do bump; skipStringChars fuel

/-- Skips a string whose opening quote has been read. -/
def skipString : Reader Unit := do skipStringChars ((← get).rest.length + 1)

/-! ### Numbers -/

/-- A number as read: an unsigned integer below 2^64, a negative integer down to -2^63, or a
double for everything else (fractions, exponents, integers out of those ranges, `-0`). -/
inductive Number
  | unsigned (n : Nat)
  | negative (i : Int)
  | float (f : Float)

def wordMax : Nat := Nat.pow 2 64 - 1

/-- Whether `10 * n + d` would exceed `bound`. -/
def exceeds (n d bound : Nat) : Bool := n ≥ bound / 10 && (n > bound / 10 || d > bound % 10)

def peekDigit : Reader (Option Nat) := do
  match ← peek with
  | some c => pure (if c.isDigit then some (c.toNat - '0'.toNat) else none)
  | none => pure none

/-- `10^k` as the nearest double. -/
def powerOfTen (k : Nat) : Float := Float.ofScientific 1 false k

/-- The double nearest to a natural number. -/
def toFloat (n : Nat) : Float := Float.ofScientific n false 0

/-- The double of `significand · 10^exponent`, computed as one rounded product or quotient
with a power of ten, and for exponents beyond ±308 first divided by 1e308; a product that
overflows is out of range. -/
def fromParts (positive : Bool) (significand : Nat) (exponent : Int) : Reader Float := do
  let rec scale (f : Float) (e : Int) : Nat → Reader Float
    | 0 => pure f
    | fuel + 1 =>
      if e.natAbs ≤ 308 then
        if 0 ≤ e then
          let g := f * powerOfTen e.toNat
          if g.isInf then failHere .numberOutOfRange else pure g
        else pure (f / powerOfTen e.natAbs)
      else if f == 0 then pure f
      else if 0 ≤ e then failHere .numberOutOfRange
      else scale (f / powerOfTen 308) (e + 308) fuel
  let f ← scale (toFloat significand) exponent 8
  pure (if positive then f else -f)

/-- Adds to a 32-bit exponent, stopping at the ends of its range. -/
def saturate (e : Int) : Int := max (-Int.pow 2 31) (min (Int.pow 2 31 - 1) e)

/-- Reads the digits of an exponent after its first one: `exp` so far. -/
def exponentDigits (positive : Bool) (significand : Nat) (starting : Int) (up : Bool)
    (exp : Nat) : Nat → Reader Float
  | 0 => fromParts positive significand (saturate (if up then starting + exp else starting - exp))
  | fuel + 1 => do
    match ← peekDigit with
    | some d =>
      bump
      if exceeds exp d (Nat.pow 2 31 - 1) then
        if significand ≠ 0 ∧ up then failHere .numberOutOfRange
        else
          let rec skipDigits : Nat → Reader Unit
            | 0 => pure ()
            | fuel + 1 => do
              match ← peekDigit with
              | some _ => do bump; skipDigits fuel
              | none => pure ()
          skipDigits ((← get).rest.length + 1)
          pure (if positive then 0.0 else -0.0)
      else exponentDigits positive significand starting up (10 * exp + d) fuel
    | none => fromParts positive significand (saturate (if up then starting + exp else starting - exp))

/-- Reads an exponent whose `e` is next. -/
def exponentPart (positive : Bool) (significand : Nat) (starting : Int) : Reader Float := do
  bump
  let up ← match ← peek with
    | some '+' => do bump; pure true
    | some '-' => do bump; pure false
    | _ => pure true
  match ← peek with
  | none => failHere .eofWhileParsingValue
  | some c =>
    if c.isDigit then do
      bump
      exponentDigits positive significand starting up (c.toNat - '0'.toNat) ((← get).rest.length + 1)
    else failNextByte .invalidNumber

/-- Reads more digits once the significand is full: they only scale it. -/
def skipSignificand (positive : Bool) (significand : Nat) (exponent : Int) : Nat → Reader Float
  | 0 => fromParts positive significand exponent
  | fuel + 1 => do
    match ← peek with
    | some c =>
      if c.isDigit then do bump; skipSignificand positive significand exponent fuel
      else if c = 'e' ∨ c = 'E' then exponentPart positive significand exponent
      else fromParts positive significand exponent
    | none => fromParts positive significand exponent

/-- Reads the fraction digits after the point: `significand` so far and `after` digits. -/
def fractionDigits (positive : Bool) (significand : Nat) (before after : Int) : Nat → Reader Float
  | 0 => fromParts positive significand (before + after)
  | fuel + 1 => do
    match ← peekDigit with
    | some d =>
      if exceeds significand d wordMax then
        skipSignificand positive significand (before + after) ((← get).rest.length + 1)
      else do
        bump
        fractionDigits positive (10 * significand + d) before (after - 1) fuel
    | none =>
      if after = 0 then
        match ← peek with
        | some _ => failPeek .invalidNumber
        | none => failPeek .eofWhileParsingValue
      else
        match ← peek with
        | some 'e' | some 'E' => exponentPart positive significand (before + after)
        | _ => fromParts positive significand (before + after)

/-- Reads a fraction whose point is next. -/
def fractionPart (positive : Bool) (significand : Nat) (before : Int) : Reader Float := do
  bump
  fractionDigits positive significand before 0 ((← get).rest.length + 1)

/-- Reads digits past the 64-bit range: each only raises the exponent. -/
def longDigits (positive : Bool) (significand : Nat) (exponent : Int) : Nat → Reader Float
  | 0 => fromParts positive significand exponent
  | fuel + 1 => do
    match ← peek with
    | some c =>
      if c.isDigit then do bump; longDigits positive significand (exponent + 1) fuel
      else if c = '.' then fractionPart positive significand exponent
      else if c = 'e' ∨ c = 'E' then exponentPart positive significand exponent
      else fromParts positive significand exponent
    | none => fromParts positive significand exponent

/-- What follows the integer digits: a fraction, an exponent, or nothing. -/
def numberTail (positive : Bool) (significand : Nat) : Reader Number := do
  match ← peek with
  | some '.' => .float <$> fractionPart positive significand 0
  | some 'e' | some 'E' => .float <$> exponentPart positive significand 0
  | _ =>
    if positive then pure (.unsigned significand)
    else if significand = 0 ∨ Nat.pow 2 63 < significand then
      pure (.float (-(toFloat significand)))
    else pure (.negative (-(significand : Int)))

/-- Reads integer digits after the first: `significand` so far. -/
def integerDigits (positive : Bool) (significand : Nat) : Nat → Reader Number
  | 0 => numberTail positive significand
  | fuel + 1 => do
    match ← peekDigit with
    | some d =>
      if exceeds significand d wordMax then
        .float <$> longDigits positive significand 0 ((← get).rest.length + 1)
      else do
        bump
        integerDigits positive (10 * significand + d) fuel
    | none => numberTail positive significand

/-- Reads a number whose sign, if any, has been read. A leading zero stands alone. -/
def number (positive : Bool) : Reader Number := do
  match ← peek with
  | none => failHere .eofWhileParsingValue
  | some c =>
    if c = '0' then do
      bump
      match ← peekDigit with
      | some _ => failPeek .invalidNumber
      | none => numberTail positive 0
    else if c.isDigit then do
      bump
      integerDigits positive (c.toNat - '0'.toNat) ((← get).rest.length + 1)
    else failNextByte .invalidNumber

def Number.found : Number → Found
  | .unsigned n => .unsigned n
  | .negative i => .signed i
  | .float f => .float f

/-- Reads the digits of a skipped number after its first: any number of them. -/
def skipDigits : Nat → Reader Unit
  | 0 => pure ()
  | fuel + 1 => do
    match ← peekDigit with
    | some _ => do bump; skipDigits fuel
    | none => pure ()

/-- Skips an exponent whose `e` is next. -/
def skipExponent : Reader Unit := do
  bump
  match ← peek with
  | some '+' | some '-' => bump
  | _ => pure ()
  match ← peek with
  | some c => if c.isDigit then do bump; skipDigits ((← get).rest.length + 1) else failNextByte .invalidNumber
  | none => failHere .invalidNumber

/-- Skips a number whose sign, if any, has been read. -/
def skipNumber : Reader Unit := do
  match ← peek with
  | some '0' => do
    bump
    if (← peekDigit).isSome then failPeek .invalidNumber
  | some c =>
    if c.isDigit then do bump; skipDigits ((← get).rest.length + 1)
    else failNextByte .invalidNumber
  | none => failHere .invalidNumber
  match ← peek with
  | some '.' => do
    bump
    if (← peekDigit).isNone then failPeek .invalidNumber
    skipDigits ((← get).rest.length + 1)
    match ← peek with
    | some 'e' | some 'E' => skipExponent
    | _ => pure ()
  | some 'e' | some 'E' => skipExponent
  | _ => pure ()

/-! ### Punctuation and skipped values -/

def colon : Reader Unit := do
  skipBlank
  match ← peek with
  | some ':' => bump
  | some _ => failPeek .expectedColon
  | none => failPeek .eofWhileParsingObject

def objectEnd : Reader Unit := do
  skipBlank
  match ← peek with
  | some '}' => bump
  | some ',' => failPeek .trailingComma
  | some _ => failPeek .trailingCharacters
  | none => failPeek .eofWhileParsingObject

def arrayEnd : Reader Unit := do
  skipBlank
  match ← peek with
  | some ']' => bump
  | some ',' => do
    bump
    skipBlank
    match ← peek with
    | some ']' => failPeek .trailingComma
    | _ => failPeek .trailingCharacters
  | some _ => failPeek .trailingCharacters
  | none => failPeek .eofWhileParsingList

/-- Closes brackets after a skipped value: `frame` is the innermost open bracket and `outer`
the ones around it, innermost first. A comma is accepted once a value has been read. Yields
the bracket whose next element or member follows, or `none` when all are closed. -/
def closeFrames (frame : Char) (comma : Bool) (outer : List Char) :
    Nat → Reader (Option (Char × List Char))
  | 0 => pure none
  | fuel + 1 => do
    skipBlank
    match ← peek with
    | some ',' =>
      if comma then do bump; pure (some (frame, outer))
      else pure (some (frame, outer))
    | some c =>
      if (c = ']' ∧ frame = '[') ∨ (c = '}' ∧ frame = '{') then do
        bump
        match outer with
        | [] => pure none
        | f :: more => closeFrames f true more fuel
      else if comma then
        failPeek (if frame = '[' then .expectedListCommaOrEnd else .expectedObjectCommaOrEnd)
      else pure (some (frame, outer))
    | none => failPeek (if frame = '[' then .eofWhileParsingList else .eofWhileParsingObject)

/-- Skips values of any kind and the brackets around them: `enclosing` is the bracket the next
value stands in, `outer` the ones around it, innermost first. -/
def skipFrom (enclosing : Option Char) (outer : List Char) : Nat → Reader Unit
  | 0 => pure ()
  | fuel + 1 => do
    skipBlank
    let opened ← match ← peek with
      | some 'n' => do bump; keywordRest ['u', 'l', 'l']; pure none
      | some 't' => do bump; keywordRest ['r', 'u', 'e']; pure none
      | some 'f' => do bump; keywordRest ['a', 'l', 's', 'e']; pure none
      | some '-' => do bump; skipNumber; pure none
      | some '"' => do bump; skipString; pure none
      | some '[' => do bump; pure (some '[')
      | some '{' => do bump; pure (some '{')
      | some c => if c.isDigit then do skipNumber; pure none else failPeek .expectedSomeValue
      | none => failPeek .eofWhileParsingValue
    let next ← match opened, enclosing, outer with
      | some f, _, _ => closeFrames f false (enclosing.toList ++ outer) fuel
      | none, some f, _ => closeFrames f true outer fuel
      | none, none, f :: more => closeFrames f true more fuel
      | none, none, [] => pure none
    match next with
    | none => pure ()
    | some (f, more) =>
      if f = '{' then
        skipBlank
        match ← peek with
        | some '"' => bump
        | some _ => failPeek .keyMustBeAString
        | none => failPeek .eofWhileParsingObject
        skipString
        colon
      skipFrom (some f) more fuel

/-- Skips one value of any kind, checking its syntax. -/
def skipValue : Reader Unit := do skipFrom none [] ((← get).rest.length + 1)

end TinySql.Json
