import SwiftDevEnv.Json.Value
import SwiftDevEnv.Json.Printer
import SwiftDevEnv.Text.Utf8
import SwiftDevEnv.Text.Quote

/-!
# Reading JSON text

A reader walks the UTF-8 bytes of a text once, left to right, guided by a `Shape`: the kind of
value expected at each place. `Shape.any` keeps whatever value stands there; the other shapes
describe records with named fields, lists, optional values and strings, and each reports the
first place where the text does not fit.

A problem is reported with the line (counted from one) and the column (the number of bytes
before the position on its line) of the place where the reader stood when it noticed it. Syntax
problems are noticed at the offending byte, either before it or just after it, as the message
table in `ReadProblem.message` shows; a value of the wrong kind is noticed after a string,
number or literal and before a bracket; a missing field is noticed after the closing brace of
its record, and a repeated field just after its key.

Nesting deeper than 127 brackets is refused, so the reader's recursion is bounded by the
input; every step consumes a byte or ends, which the fuel argument of the loops reflects.
-/

namespace SwiftDevEnv.Json

open SwiftDevEnv.Decimal

/-- What happens when a record lacks a field. -/
inductive Absence where
  /-- The field must be given. -/
  | refused
  /-- An object may leave the field out, as `null`; an array must still reach it. -/
  | nullInObject
  /-- The field may be left out of an object and of an array alike. -/
  | defaulted
  deriving DecidableEq, Repr

/-- What a reader expects at one place of a JSON text. -/
inductive Shape where
  /-- Any value, kept. -/
  | any
  /-- Any value, checked for its form only and dropped. -/
  | ignored
  /-- A string; `expecting` names the expected value in error messages. -/
  | text (expecting : String)
  /-- `null` for an absent value, or the inner shape. -/
  | optional (inner : Shape)
  /-- An array whose items have the inner shape. -/
  | list (item : Shape)
  /-- An object with the given fields (name, shape, what their absence means), or an array of
  the field values in order. Other keys are ignored. -/
  | record (name : String) (fields : List (String × Shape × Absence))

/-- Why a text does not read. -/
inductive ReadProblem where
  | eofInList
  | eofInObject
  | eofInString
  | eofInValue
  | expectedColon
  | expectedListCommaOrEnd
  | expectedObjectCommaOrEnd
  | expectedIdent
  | expectedValue
  | invalidEscape
  | invalidNumber
  | numberOutOfRange
  | controlCharacter
  | keyMustBeString
  | loneLeadingSurrogate
  | unexpectedEndOfHexEscape
  | trailingComma
  | trailingCharacters
  | recursionLimit
  /-- A value that does not fit its shape, a missing or repeated field. -/
  | custom (message : String)
  deriving DecidableEq, Repr

/-- The message of a read problem. -/
def ReadProblem.message : ReadProblem → String
  | .eofInList => "EOF while parsing a list"
  | .eofInObject => "EOF while parsing an object"
  | .eofInString => "EOF while parsing a string"
  | .eofInValue => "EOF while parsing a value"
  | .expectedColon => "expected `:`"
  | .expectedListCommaOrEnd => "expected `,` or `]`"
  | .expectedObjectCommaOrEnd => "expected `,` or `\x7d`"
  | .expectedIdent => "expected ident"
  | .expectedValue => "expected value"
  | .invalidEscape => "invalid escape"
  | .invalidNumber => "invalid number"
  | .numberOutOfRange => "number out of range"
  | .controlCharacter => "control character (\\u0000-\\u001F) found while parsing a string"
  | .keyMustBeString => "key must be a string"
  | .loneLeadingSurrogate => "lone leading surrogate in hex escape"
  | .unexpectedEndOfHexEscape => "unexpected end of hex escape"
  | .trailingComma => "trailing comma"
  | .trailingCharacters => "trailing characters"
  | .recursionLimit => "recursion limit exceeded"
  | .custom m => m

/-- A read problem with the line and column where it was noticed. -/
structure ReadError where
  problem : ReadProblem
  line : Nat
  column : Nat
  deriving DecidableEq, Repr

/-- The message of a read error, with its place. -/
def ReadError.message (e : ReadError) : String :=
  s!"{e.problem.message} at line {e.line} column {e.column}"

/-- How a value that does not fit its shape is described: `integer 5`, `string "a"`, … -/
inductive Unexpected where
  | bool (b : Bool)
  | unsigned (n : Nat)
  | signed (i : Int)
  | float (x : Binary64)
  | str (s : String)
  | unit
  | seq
  | map
  deriving Repr

/-- How an unexpected value is named in a type error. -/
def Unexpected.describe : Unexpected → String
  | .bool b => s!"boolean `{b}`"
  | .unsigned n => s!"integer `{n}`"
  | .signed i => s!"integer `{i}`"
  | .float x => "floating point `" ++ floatText x ++ "`"
  | .str s => "string " ++ Text.debugQuote s
  | .unit => "null"
  | .seq => "sequence"
  | .map => "map"

/-- The message of a value of the wrong kind. -/
def invalidType (u : Unexpected) (expecting : String) : ReadProblem :=
  .custom s!"invalid type: {u.describe}, expected {expecting}"

/-- What a shape is called when a value does not fit it. -/
def Shape.expecting : Shape → String
  | .any => "any valid JSON value"
  | .ignored => "anything at all"
  | .text e => e
  | .optional _ => "option"
  | .list _ => "a sequence"
  | .record name _ => s!"struct {name}"

/-- The reader's state: the bytes and the position of the next unread byte. -/
structure Cursor where
  bytes : ByteArray
  pos : Nat

namespace Cursor

/-- The byte at the position, if any. -/
def peek (c : Cursor) : Option UInt8 := c.bytes[c.pos]?

/-- The cursor one byte further. -/
def bump (c : Cursor) : Cursor := { c with pos := c.pos + 1 }

/-- Line and column of a byte index: lines counted from one, columns as bytes since the last
line feed. -/
def placeOf (c : Cursor) (i : Nat) : Nat × Nat :=
  (List.range (min i c.bytes.size)).foldl
    (fun (line, col) j => if c.bytes[j]? = some (10 : UInt8) then (line + 1, 0) else (line, col + 1))
    (1, 0)

/-- A problem noticed at the position. -/
def error {α : Type} (c : Cursor) (p : ReadProblem) : Except ReadError α :=
  let (line, col) := c.placeOf c.pos
  .error ⟨p, line, col⟩

/-- A problem noticed while looking at the next byte. -/
def peekError {α : Type} (c : Cursor) (p : ReadProblem) : Except ReadError α :=
  let (line, col) := c.placeOf (min (c.pos + 1) c.bytes.size)
  .error ⟨p, line, col⟩

/-- Skips blanks (space, line feed, tab, carriage return). -/
def skipBlanks (c : Cursor) (fuel : Nat) : Cursor :=
  match fuel with
  | 0 => c
  | fuel + 1 =>
    match c.peek with
    | some 32 | some 10 | some 9 | some 13 => skipBlanks c.bump fuel
    | _ => c

end Cursor

/-- A reader result: a value and the cursor after it. -/
abbrev Step (α : Type) := Except ReadError (α × Cursor)

/-- Reads the rest of a literal such as `ull` after `n`. -/
def readIdent (c : Cursor) : List UInt8 → Except ReadError Cursor
  | [] => .ok c
  | b :: rest =>
    match c.peek with
    | none => c.error .eofInValue
    | some x => if x == b then readIdent c.bump rest else c.bump.error .expectedIdent

/-- Whether a byte is an ASCII digit. -/
def isDigitByte (b : UInt8) : Bool := 48 ≤ b && b ≤ 57

/-- Reads a run of digits, returning their value and count. -/
def readDigits (c : Cursor) (acc count : Nat) (fuel : Nat) : Nat × Nat × Cursor :=
  match fuel with
  | 0 => (acc, count, c)
  | fuel + 1 =>
    match c.peek with
    | some b => if isDigitByte b then readDigits c.bump (acc * 10 + (b.toNat - 48)) (count + 1) fuel
                else (acc, count, c)
    | none => (acc, count, c)

/-- A number as read: an unsigned or negative integer, or a float. -/
inductive ReadNumber where
  | unsigned (n : Nat)
  | negative (i : Int)
  | float (x : Binary64)

/-- The unexpected-value description of a number. -/
def ReadNumber.unexpected : ReadNumber → Unexpected
  | .unsigned n => .unsigned n
  | .negative i => .signed i
  | .float x => .float x

/-- The JSON number of a number as read. -/
def ReadNumber.toNumber : ReadNumber → Number
  | .unsigned n => .int n
  | .negative i => .int i
  | .float x => .float x

/-- The largest 64-bit unsigned integer. -/
def maxSignificand : Nat := Nat.pow 2 64 - 1

/-- The largest 32-bit signed integer, the bound of a written exponent. -/
def maxExponent : Nat := Nat.pow 2 31 - 1

/-- Reads digits into a value while it stays at most `limit`. Gives the value, how many digits
it took, and the cursor at the first digit that did not fit or the first non-digit. -/
def absorbDigits (limit value count : Nat) (c : Cursor) (fuel : Nat) : Nat × Nat × Cursor :=
  match fuel with
  | 0 => (value, count, c)
  | fuel + 1 =>
    match c.peek with
    | some b =>
      let next := value * 10 + (b.toNat - 48)
      if isDigitByte b && next ≤ limit then absorbDigits limit next (count + 1) c.bump fuel
      else (value, count, c)
    | none => (value, count, c)

/-- Whether the byte at the cursor is a digit. -/
def Cursor.atDigit (c : Cursor) : Bool := (c.peek.map isDigitByte).getD false

/-- The power of ten `10^k` nearest to a binary64 number, for `k ≤ 308`. -/
def powerOfTen (k : Nat) : Binary64 := Binary64.ofDecimal false 1 k

/-- Scales a float by a power of ten the way a fast reader does: one multiplication or division
by the nearest binary64 power of ten when the power is at most 308, and otherwise divisions by
`10^308` until it is, unless the float is zero. A product that overflows, or a power above
308 of a float that is not zero, is out of range. The float is at most 2^64, so after two
divisions by `10^308` it is zero, and four steps suffice. -/
def scaleByTen (f : Binary64) (exp : Int) : Nat → Option Binary64
  | 0 => some f
  | fuel + 1 =>
    if exp.natAbs ≤ 308 then
      if 0 ≤ exp then
        let g := f.mul (powerOfTen exp.natAbs)
        if g.isFinite then some g else none
      else some (f.div (powerOfTen exp.natAbs))
    else if f.isZero then some f
    else if 0 ≤ exp then none
    else scaleByTen (f.div (powerOfTen 308)) (exp + 308) fuel

/-- The float of a significand of at most 64 bits and a power of ten: the significand rounded
to binary64, then scaled; none when out of range. -/
def floatOfParts (negative : Bool) (significand : Nat) (exp : Int) : Option Binary64 :=
  (scaleByTen (Binary64.ofNat significand) exp 4).map fun f => if negative then f.neg else f

/-- An exponent clamped to 32 bits. -/
def clampExponent (e : Int) : Int := max (-(maxExponent : Int) - 1) (min e maxExponent)

/-- A float from its parts at the cursor after it, or the out-of-range problem there. -/
def finishFloat (negative : Bool) (significand : Nat) (exp : Int) (c : Cursor) :
    Except ReadError (ReadNumber × Cursor) :=
  match floatOfParts negative significand exp with
  | some x => .ok (.float x, c)
  | none => c.error .numberOutOfRange

/-- Reads the exponent of a number from its `e`: an optional sign and at least one digit. The
exponent is added to `start`, clamped to 32 bits. An exponent beyond 32 bits is out of range when
positive and the significand is not zero; otherwise the number is zero. The digit that does not fit
is read before the problem is noticed. -/
def readExponent (negative : Bool) (significand : Nat) (start : Int) (c : Cursor) (fuel : Nat) :
    Except ReadError (ReadNumber × Cursor) :=
  let c1 := c.bump
  let (positive, c2) := match c1.peek with
    | some 43 => (true, c1.bump)
    | some 45 => (false, c1.bump)
    | _ => (true, c1)
  match c2.peek with
  | none => c2.error .eofInValue
  | some d =>
    if !isDigitByte d then c2.bump.error .invalidNumber
    else
      let (e, _, c3) := absorbDigits maxExponent 0 0 c2 fuel
      if c3.atDigit then
        if significand != 0 && positive then c3.bump.error .numberOutOfRange
        else .ok (.float (Binary64.ofParts negative 0 0), (readDigits c3 0 0 fuel).2.2)
      else
        let total := if positive then start + e else start - e
        finishFloat negative significand (clampExponent total) c3

/-- Reads the fraction of a number from its `.`, then an exponent if one follows. Digits go
into the significand while it fits; later ones are skipped. At least one digit must follow the
point unless the first of them already does not fit. -/
def readFraction (negative : Bool) (significand : Nat) (start : Int) (c : Cursor) (fuel : Nat) :
    Except ReadError (ReadNumber × Cursor) :=
  let c1 := c.bump
  let (sig, taken, c2) := absorbDigits maxSignificand significand 0 c1 fuel
  let exp := start - taken
  let afterDigits (c3 : Cursor) : Except ReadError (ReadNumber × Cursor) :=
    match c3.peek with
    | some 101 | some 69 => readExponent negative sig exp c3 fuel
    | _ => finishFloat negative sig exp c3
  if c2.atDigit then afterDigits (readDigits c2 0 0 fuel).2.2
  else if taken = 0 then
    match c2.peek with
    | some _ => c2.peekError .invalidNumber
    | none => c2.peekError .eofInValue
  else afterDigits c2

/-- What follows the integer part of a number: a fraction, an exponent, or nothing, in which
case a significand that fit stays an integer. -/
def readNumberTail (negative : Bool) (significand : Nat) (skipped : Nat) (c : Cursor)
    (fuel : Nat) : Except ReadError (ReadNumber × Cursor) :=
  match c.peek with
  | some 46 => readFraction negative significand skipped c fuel
  | some 101 | some 69 => readExponent negative significand skipped c fuel
  | _ =>
    if skipped > 0 then finishFloat negative significand skipped c
    else if !negative then .ok (.unsigned significand, c)
    else if significand = 0 then .ok (.float (Binary64.ofParts true 0 0), c)
    else if significand ≤ Nat.pow 2 63 then .ok (.negative (-(significand : Int)), c)
    else .ok (.float (Binary64.ofNat significand).neg, c)

/-- Reads a number after its optional minus sign: an integer part without superfluous leading
zeros, an optional fraction and an optional exponent. As a fast reader does, digits are kept in
a 64-bit significand while they fit, later integer digits count as powers of ten and later
fraction digits are dropped. A float is the significand rounded to binary64 and then scaled
(`scaleByTen`), which may differ from the nearest binary64 number by a little. Integers that
fit 64 bits stay integers; others, `-0` and numbers with a fraction or exponent become
floats. -/
def readNumber (c : Cursor) (negative : Bool) (fuel : Nat) : Except ReadError (ReadNumber × Cursor) :=
  match c.peek with
  | none => c.error .eofInValue
  | some b =>
    if b == 48 then
      if c.bump.atDigit then c.bump.peekError .invalidNumber
      else readNumberTail negative 0 0 c.bump fuel
    else if isDigitByte b then
      let (sig, _, c1) := absorbDigits maxSignificand 0 0 c fuel
      if c1.atDigit then
        let (_, skipped, c2) := readDigits c1 0 0 fuel
        readNumberTail negative sig skipped c2 fuel
      else readNumberTail negative sig 0 c1 fuel
    else c.bump.error .invalidNumber

/-- Reads the four hex digits of a `\u` escape. -/
def readHex4 (c : Cursor) : Except ReadError (Nat × Cursor) :=
  let digit (b : UInt8) : Option Nat :=
    if 48 ≤ b && b ≤ 57 then some (b.toNat - 48)
    else if 97 ≤ b && b ≤ 102 then some (b.toNat - 87)
    else if 65 ≤ b && b ≤ 70 then some (b.toNat - 55)
    else none
  if c.pos + 4 > c.bytes.size then { c with pos := c.bytes.size }.error .eofInString
  else
    let c4 : Cursor := { c with pos := c.pos + 4 }
    match (c.bytes[c.pos]?.bind digit, c.bytes[c.pos + 1]?.bind digit,
        c.bytes[c.pos + 2]?.bind digit, c.bytes[c.pos + 3]?.bind digit) with
    | (some a, some b, some d, some e) => .ok (((a * 16 + b) * 16 + d) * 16 + e, c4)
    | _ => c4.error .invalidEscape

/-- Reads a string after its opening quote, collecting its bytes in reverse. -/
def readStringBytes (c : Cursor) (acc : List UInt8) (fuel : Nat) :
    Except ReadError (List UInt8 × Cursor) :=
  match fuel with
  | 0 => c.error .eofInString
  | fuel + 1 =>
    match c.peek with
    | none => c.error .eofInString
    | some 34 => .ok (acc.reverse, c.bump)
    | some 92 =>
      let c1 := c.bump
      match c1.peek with
      | none => c1.error .eofInString
      | some e =>
        let c2 := c1.bump
        let simple (b : UInt8) := readStringBytes c2 (b :: acc) fuel
        if e == 34 then simple 34
        else if e == 92 then simple 92
        else if e == 47 then simple 47
        else if e == 98 then simple 8
        else if e == 102 then simple 12
        else if e == 110 then simple 10
        else if e == 114 then simple 13
        else if e == 116 then simple 9
        else if e == 117 then
          match readHex4 c2 with
          | .error err => .error err
          | .ok (n, c3) =>
            if 0xDC00 ≤ n && n ≤ 0xDFFF then c3.error .loneLeadingSurrogate
            else if n < 0xD800 || n > 0xDBFF then
              readStringBytes c3 ((Text.utf8Bytes (String.singleton (Char.ofNat n))).reverse ++ acc) fuel
            else
              match c3.peek with
              | some 92 =>
                match c3.bump.peek with
                | some 117 =>
                  match readHex4 c3.bump.bump with
                  | .error err => .error err
                  | .ok (n2, c4) =>
                    if 0xDC00 ≤ n2 && n2 ≤ 0xDFFF then
                      let cp := ((n - 0xD800) * 1024 + (n2 - 0xDC00)) + 0x10000
                      readStringBytes c4
                        ((Text.utf8Bytes (String.singleton (Char.ofNat cp))).reverse ++ acc) fuel
                    else c4.error .loneLeadingSurrogate
                | some _ => c3.bump.bump.error .unexpectedEndOfHexEscape
                | none => c3.bump.error .eofInString
              | some _ => c3.bump.error .unexpectedEndOfHexEscape
              | none => c3.error .eofInString
        else c2.error .invalidEscape
    | some b =>
      if b < 32 then c.bump.error .controlCharacter
      else readStringBytes c.bump (b :: acc) fuel

/-- Reads a string after its opening quote. -/
def readString (c : Cursor) (fuel : Nat) : Except ReadError (String × Cursor) :=
  match readStringBytes c [] fuel with
  | .error e => .error e
  | .ok (bytes, c1) =>
    match Text.decode bytes with
    | .ok s => .ok (s, c1)
    | .error _ => c1.error .invalidEscape

/-- Skips a run of digits. -/
def skipDigits (c : Cursor) (fuel : Nat) : Cursor := (readDigits c 0 0 fuel).2.2

/-- Skips the exponent of a skipped number from its `e`: an optional sign and at least one
digit. -/
def skipExponent (c : Cursor) (fuel : Nat) : Except ReadError Cursor :=
  let c1 := c.bump
  let c2 := match c1.peek with
    | some 43 | some 45 => c1.bump
    | _ => c1
  match c2.peek with
  | some b => if isDigitByte b then .ok (skipDigits c2.bump fuel) else c2.bump.error .invalidNumber
  | none => c2.error .invalidNumber

/-- Skips what may follow the integer part of a skipped number: a fraction of at least one
digit, an exponent, both or neither. -/
def skipNumberTail (c : Cursor) (fuel : Nat) : Except ReadError Cursor :=
  let exponent (c : Cursor) : Except ReadError Cursor :=
    match c.peek with
    | some 101 | some 69 => skipExponent c fuel
    | _ => .ok c
  match c.peek with
  | some 46 =>
    let c1 := c.bump
    let c2 := skipDigits c1 fuel
    if c2.pos == c1.pos then c2.peekError .invalidNumber else exponent c2
  | _ => exponent c

/-- Skips a number after its optional minus sign, checking only its form: its size is never
looked at. -/
def skipNumber (c : Cursor) (fuel : Nat) : Except ReadError Cursor :=
  match c.peek with
  | some 48 =>
    let c1 := c.bump
    match c1.peek with
    | some d => if isDigitByte d then c1.peekError .invalidNumber else skipNumberTail c1 fuel
    | none => skipNumberTail c1 fuel
  | some b =>
    if isDigitByte b then skipNumberTail (skipDigits c.bump fuel) fuel
    else c.bump.error .invalidNumber
  | none => c.error .invalidNumber

/-- Skips a string after its opening quote. Escapes must be known and a `\\u` escape needs four
hex digits, but what they stand for is not looked at; a control character is noticed before it
is passed. -/
def skipString (c : Cursor) (fuel : Nat) : Except ReadError Cursor :=
  match fuel with
  | 0 => c.error .eofInString
  | fuel + 1 =>
    match c.peek with
    | none => c.error .eofInString
    | some 34 => .ok c.bump
    | some 92 =>
      let c1 := c.bump
      match c1.peek with
      | none => c1.error .eofInString
      | some e =>
        let c2 := c1.bump
        if [34, 92, 47, 98, 102, 110, 114, 116].contains e then skipString c2 fuel
        else if e == 117 then
          match readHex4 c2 with
          | .error err => .error err
          | .ok (_, c3) => skipString c3 fuel
        else c2.error .invalidEscape
    | some b => if b < 32 then c.error .controlCharacter else skipString c.bump fuel

/-- Where a walk that skips a value stands. -/
inductive SkipPlace where
  /-- Before a value. -/
  | value
  /-- After a value, or after an opening bracket when no comma may come yet. -/
  | after (commaAllowed : Bool)
  /-- Inside the innermost open bracket, before its next member. -/
  | member

/-- Skips a value without keeping it. The open brackets are a stack, innermost first, so nesting
has no limit. Scalars are checked for their form only. Inside a skipped container a comma must
be followed by a value or, in an object, by a key, so a trailing comma is noticed as a missing
value or key. -/
def skipWalk (place : SkipPlace) (stack : List UInt8) (c : Cursor) (fuel : Nat) :
    Except ReadError Cursor :=
  match fuel with
  | 0 => c.error .eofInValue
  | fuel + 1 =>
    let c := c.skipBlanks fuel
    match place with
    | .value =>
      let scalar (r : Except ReadError Cursor) : Except ReadError Cursor :=
        match r with
        | .error e => .error e
        | .ok c1 => skipWalk (.after true) stack c1 fuel
      match c.peek with
      | none => c.peekError .eofInValue
      | some 110 => scalar (readIdent c.bump [117, 108, 108])
      | some 116 => scalar (readIdent c.bump [114, 117, 101])
      | some 102 => scalar (readIdent c.bump [97, 108, 115, 101])
      | some 45 => scalar (skipNumber c.bump fuel)
      | some 34 => scalar (skipString c.bump fuel)
      | some b =>
        if isDigitByte b then scalar (skipNumber c fuel)
        else if b == 91 || b == 123 then skipWalk (.after false) (b :: stack) c.bump fuel
        else c.peekError .expectedValue
    | .after commaAllowed =>
      match stack with
      | [] => .ok c
      | frame :: rest =>
        match c.peek with
        | some b =>
          if b == 44 && commaAllowed then skipWalk .member stack c.bump fuel
          else if (b == 93 && frame == 91) || (b == 125 && frame == 123) then
            skipWalk (.after true) rest c.bump fuel
          else if commaAllowed then
            c.peekError (if frame == 91 then .expectedListCommaOrEnd else .expectedObjectCommaOrEnd)
          else skipWalk .member stack c fuel
        | none => c.peekError (if frame == 91 then .eofInList else .eofInObject)
    | .member =>
      match stack with
      | 123 :: _ =>
        match c.peek with
        | some 34 =>
          match skipString c.bump fuel with
          | .error e => .error e
          | .ok c1 =>
            let c2 := c1.skipBlanks fuel
            match c2.peek with
            | some 58 => skipWalk .value stack c2.bump fuel
            | some _ => c2.peekError .expectedColon
            | none => c2.peekError .eofInObject
        | some _ => c.peekError .keyMustBeString
        | none => c.peekError .eofInObject
      | _ => skipWalk .value stack c fuel
termination_by structural fuel

/-- Skips the value at the cursor, as an unknown field's value is skipped. Each step of the
walk consumes a byte or is one of at most two steps between bytes, so three steps a byte
suffice. -/
def skipValue (c : Cursor) : Except ReadError Cursor :=
  skipWalk .value [] c (3 * c.bytes.size + 16)

/-- The description of the value at the cursor, read past scalars, for a type error. -/
def unexpectedAt (c : Cursor) (fuel : Nat) : Except ReadError (Unexpected × Cursor) :=
  match c.peek with
  | some 110 => (readIdent c.bump [117, 108, 108]).map (fun c1 => (.unit, c1))
  | some 116 => (readIdent c.bump [114, 117, 101]).map (fun c1 => (.bool true, c1))
  | some 102 => (readIdent c.bump [97, 108, 115, 101]).map (fun c1 => (.bool false, c1))
  | some 45 => (readNumber c.bump true fuel).map (fun (n, c1) => (n.unexpected, c1))
  | some 34 => (readString c.bump fuel).map (fun (s, c1) => (.str s, c1))
  | some 91 => .ok (.seq, c)
  | some 123 => .ok (.map, c)
  | some b =>
    if isDigitByte b then (readNumber c false fuel).map (fun (n, c1) => (n.unexpected, c1))
    else c.peekError .expectedValue
  | none => c.peekError .expectedValue

/-- A type error for the value at the cursor. -/
def typeErrorAt {α : Type} (c : Cursor) (expecting : String) (fuel : Nat) : Step α :=
  match unexpectedAt c fuel with
  | .error e => .error e
  | .ok (u, c1) => c1.error (invalidType u expecting)

/-- The end of an array: blanks and the closing bracket. -/
def closeList (c : Cursor) (fuel : Nat) : Except ReadError Cursor :=
  let c := c.skipBlanks fuel
  match c.peek with
  | some 93 => .ok c.bump
  | some 44 =>
    let c1 := c.bump.skipBlanks fuel
    if c1.peek = some 93 then c1.peekError .trailingComma else c1.peekError .trailingCharacters
  | some _ => c.peekError .trailingCharacters
  | none => c.peekError .eofInList

/-- The end of an object: blanks and the closing brace. -/
def closeObject (c : Cursor) (fuel : Nat) : Except ReadError Cursor :=
  let c := c.skipBlanks fuel
  match c.peek with
  | some 125 => .ok c.bump
  | some 44 => c.peekError .trailingComma
  | some _ => c.peekError .trailingCharacters
  | none => c.peekError .eofInObject

/-- Where the reader stands inside an array: before the first item or after an item. -/
def nextItem (c : Cursor) (first : Bool) (fuel : Nat) : Except ReadError (Option Cursor) :=
  let c := c.skipBlanks fuel
  match c.peek with
  | some 93 => .ok none
  | some 44 =>
    if first then .ok (some c)
    else
      let c1 := c.bump.skipBlanks fuel
      match c1.peek with
      | some 93 => c1.peekError .trailingComma
      | some _ => .ok (some c1)
      | none => c1.peekError .eofInValue
  | some _ => if first then .ok (some c) else c.peekError .expectedListCommaOrEnd
  | none => c.peekError .eofInList

/-- Where the reader stands inside an object: at the next key, or at the end. -/
def nextKey (c : Cursor) (first : Bool) (fuel : Nat) : Except ReadError (Option Cursor) :=
  let c := c.skipBlanks fuel
  let atKey (c1 : Cursor) : Except ReadError (Option Cursor) :=
    match c1.peek with
    | some 34 => .ok (some c1)
    | some 125 => c1.peekError .trailingComma
    | some _ => c1.peekError .keyMustBeString
    | none => c1.peekError .eofInValue
  match c.peek with
  | some 125 => .ok none
  | some 44 => if first then atKey c else atKey (c.bump.skipBlanks fuel)
  | some _ => if first then atKey c else c.peekError .expectedObjectCommaOrEnd
  | none => c.peekError .eofInObject

/-- The colon between a key and its value. -/
def readColon (c : Cursor) (fuel : Nat) : Except ReadError Cursor :=
  let c := c.skipBlanks fuel
  match c.peek with
  | some 58 => .ok c.bump
  | some _ => c.peekError .expectedColon
  | none => c.peekError .eofInObject

/-- The first required field, in field order, that the members lack. -/
def missingField (fields : List (String × Shape × Absence)) (found : List (String × Value)) :
    Option String :=
  (fields.find? (fun f => f.2.2 == .refused && (lookupMember f.1 found).isNone)).map (·.1)

/-- The members of a record with `null` for each absent field. -/
def completeFields (fields : List (String × Shape × Absence)) (found : List (String × Value)) :
    List (String × Value) :=
  fields.map (fun f => (f.1, (lookupMember f.1 found).getD .null))

mutual

/-- Reads a value of the given shape; `depth` counts the brackets still allowed. -/
def readShape (shape : Shape) (c : Cursor) (depth fuel : Nat) : Step Value :=
  match fuel with
  | 0 => c.error .eofInValue
  | fuel + 1 =>
    let c := c.skipBlanks fuel
    match c.peek with
    | none => c.peekError .eofInValue
    | some b =>
      match shape with
      | .any => readAny c b depth fuel
      | .ignored => (skipValue c).map fun c1 => (.null, c1)
      | .text e =>
        if b == 34 then (readString c.bump fuel).map (fun (s, c1) => (.string s, c1))
        else typeErrorAt c e fuel
      | .optional inner =>
        if b == 110 then (readIdent c.bump [117, 108, 108]).map (fun c1 => (.null, c1))
        else readShape inner c depth fuel
      | .list item =>
        if b == 91 then
          if depth ≤ 1 then c.peekError .recursionLimit
          else
            match readItems item c.bump true [] (depth - 1) fuel with
            | .error e => .error e
            | .ok (items, c1) => (closeList c1 fuel).map (fun c2 => (.array items, c2))
        else typeErrorAt c "a sequence" fuel
      | .record name fields =>
        if b == 123 then
          if depth ≤ 1 then c.peekError .recursionLimit
          else
            match readFields fields c.bump true [] (depth - 1) fuel with
            | .error e => .error e
            | .ok (found, c1) =>
              let closed := closeObject c1 fuel
              match missingField fields found with
              | some missing =>
                let c2 := match closed with
                  | .ok c2 => c2
                  | .error _ => c1.skipBlanks fuel
                c2.error (.custom s!"missing field `{missing}`")
              | none =>
                match closed with
                | .error e => .error e
                | .ok c2 => .ok (Value.ofMembers (completeFields fields found), c2)
        else if b == 91 then
          if depth ≤ 1 then c.peekError .recursionLimit
          else
            match readRecordItems name fields.length fields c.bump true [] (depth - 1) fuel with
            | .error e => .error e
            | .ok ((found, problem), c1) =>
              let closed := closeList c1 fuel
              match problem with
              | some message =>
                let c2 := match closed with
                  | .ok c2 => c2
                  | .error _ => c1.skipBlanks fuel
                c2.error (.custom message)
              | none => closed.map (fun c2 => (Value.ofMembers (completeFields fields found), c2))
        else typeErrorAt c s!"struct {name}" fuel
termination_by structural fuel

/-- Reads any value whose first byte is `b`. -/
def readAny (c : Cursor) (b : UInt8) (depth fuel : Nat) : Step Value :=
  match fuel with
  | 0 => c.error .eofInValue
  | fuel + 1 =>
  if b == 110 then (readIdent c.bump [117, 108, 108]).map (fun c1 => (.null, c1))
  else if b == 116 then (readIdent c.bump [114, 117, 101]).map (fun c1 => (.bool true, c1))
  else if b == 102 then (readIdent c.bump [97, 108, 115, 101]).map (fun c1 => (.bool false, c1))
  else if b == 45 then
    (readNumber c.bump true fuel).map (fun (n, c1) => (.number n.toNumber, c1))
  else if isDigitByte b then
    (readNumber c false fuel).map (fun (n, c1) => (.number n.toNumber, c1))
  else if b == 34 then (readString c.bump fuel).map (fun (s, c1) => (.string s, c1))
  else if b == 91 then
    if depth ≤ 1 then c.peekError .recursionLimit
    else
      match readItems .any c.bump true [] (depth - 1) fuel with
      | .error e => .error e
      | .ok (items, c1) => (closeList c1 fuel).map (fun c2 => (.array items, c2))
  else if b == 123 then
    if depth ≤ 1 then c.peekError .recursionLimit
    else
      match readMembers c.bump true [] (depth - 1) fuel with
      | .error e => .error e
      | .ok (members, c1) => (closeObject c1 fuel).map (fun c2 => (.object members, c2))
  else c.peekError .expectedValue
termination_by structural fuel

/-- Reads array items of a shape up to the closing bracket (not consumed). -/
def readItems (item : Shape) (c : Cursor) (first : Bool) (acc : List Value) (depth fuel : Nat) :
    Step (List Value) :=
  match fuel with
  | 0 => c.error .eofInList
  | fuel + 1 =>
    match nextItem c first fuel with
    | .error e => .error e
    | .ok none => .ok (acc.reverse, c.skipBlanks fuel)
    | .ok (some c1) =>
      match readShape item c1 depth fuel with
      | .error e => .error e
      | .ok (v, c2) => readItems item c2 false (v :: acc) depth fuel
termination_by structural fuel

/-- Reads object members of any values up to the closing brace (not consumed). -/
def readMembers (c : Cursor) (first : Bool) (acc : List (String × Value)) (depth fuel : Nat) :
    Step (List (String × Value)) :=
  match fuel with
  | 0 => c.error .eofInObject
  | fuel + 1 =>
    match nextKey c first fuel with
    | .error e => .error e
    | .ok none => .ok (acc, c.skipBlanks fuel)
    | .ok (some c1) =>
      match readString c1.bump fuel with
      | .error e => .error e
      | .ok (key, c2) =>
        match readColon c2 fuel with
        | .error e => .error e
        | .ok c3 =>
          match readShape .any c3 depth fuel with
          | .error e => .error e
          | .ok (v, c4) => readMembers c4 false (insertMember key v acc) depth fuel
termination_by structural fuel

/-- Reads the members of a record up to the closing brace (not consumed), keeping the fields it
knows. -/
def readFields (fields : List (String × Shape × Absence)) (c : Cursor) (first : Bool)
    (acc : List (String × Value)) (depth fuel : Nat) : Step (List (String × Value)) :=
  match fuel with
  | 0 => c.error .eofInObject
  | fuel + 1 =>
    match nextKey c first fuel with
    | .error e => .error e
    | .ok none => .ok (acc, c.skipBlanks fuel)
    | .ok (some c1) =>
      match readString c1.bump fuel with
      | .error e => .error e
      | .ok (key, c2) =>
        match fields.find? (fun f => f.1 = key) with
        | some (_, shape, _) =>
          if (lookupMember key acc).isSome then
            (c2.skipBlanks fuel).error (.custom s!"duplicate field `{key}`")
          else
            match readColon c2 fuel with
            | .error e => .error e
            | .ok c3 =>
              match readShape shape c3 depth fuel with
              | .error e => .error e
              | .ok (v, c4) => readFields fields c4 false (insertMember key v acc) depth fuel
        | none =>
          match readColon c2 fuel with
          | .error e => .error e
          | .ok c3 =>
            match readShape .ignored c3 depth fuel with
            | .error e => .error e
            | .ok (_, c4) => readFields fields c4 false acc depth fuel
termination_by structural fuel

/-- Reads the field values of a record written as an array, in field order, up to the closing
bracket (not consumed). A field the array does not reach is left out when it has a default;
otherwise the array is too short, and the message saying so comes with the fields read. -/
def readRecordItems (name : String) (total : Nat) (fields : List (String × Shape × Absence))
    (c : Cursor) (first : Bool) (acc : List (String × Value)) (depth fuel : Nat) :
    Step (List (String × Value) × Option String) :=
  match fuel with
  | 0 => c.error .eofInList
  | fuel + 1 =>
    match fields with
    | [] => .ok ((acc, none), c)
    | (fname, shape, absence) :: rest =>
      match nextItem c first fuel with
      | .error e => .error e
      | .ok none =>
        if absence == .defaulted then readRecordItems name total rest c first acc depth fuel
        else
          .ok ((acc, some s!"invalid length {total - fields.length}, expected struct {name} with {total} elements"), c)
      | .ok (some c1) =>
        match readShape shape c1 depth fuel with
        | .error e => .error e
        | .ok (v, c2) =>
          readRecordItems name total rest c2 false (insertMember fname v acc) depth fuel
termination_by structural fuel

end

/-- Reads a whole text as a value of a shape; only blanks may follow it. -/
def readText (shape : Shape) (text : String) : Except ReadError Value :=
  let bytes := text.toUTF8
  let fuel := 4 * bytes.size + 16
  match readShape shape ⟨bytes, 0⟩ 128 fuel with
  | .error e => .error e
  | .ok (v, c) =>
    let c := c.skipBlanks fuel
    match c.peek with
    | some _ => c.peekError .trailingCharacters
    | none => .ok v

/-- Reads a whole text as any JSON value. -/
def Value.parse (text : String) : Except ReadError Value :=
  readText .any text

end SwiftDevEnv.Json
