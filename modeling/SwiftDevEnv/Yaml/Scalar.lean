import SwiftDevEnv.Decimal.Binary64

/-!
# What a plain YAML scalar means

A plain scalar without a tag is read, in this order, as null (empty, `~` or `null` in three
spellings), as a boolean (`true` or `false` in three spellings), as an integer, as a float,
and otherwise as a string. Only these spellings count: `yes`, `on` and `y` are strings.

Integers are decimal, or hexadecimal, octal and binary with `0x`, `0o` and `0b`, with an
optional `+` and, for signed values, `-`. Decimal digits with a leading zero (`007`) are a
string, not a number. An integer is first read as an unsigned and then as a signed 64-bit
number; one that only fits 128 bits is reported as such, and a longer one is read as a float.

Floats use the usual decimal notation (`1.5`, `.5`, `5.`, `1e10`) and `.inf`, `-.inf` and
`.nan` in three spellings; a decimal float too large for 64 bits is a string.
-/

namespace SwiftDevEnv.Yaml

open SwiftDevEnv.Decimal

/-- Whether a scalar spells null. -/
def isNullText (s : String) : Bool := s == "null" || s == "Null" || s == "NULL" || s == "~"

/-- The boolean a scalar spells, if any. -/
def boolText (s : String) : Option Bool :=
  if s == "true" || s == "True" || s == "TRUE" then some true
  else if s == "false" || s == "False" || s == "FALSE" then some false
  else none

/-- Whether a scalar is digits with a leading zero (after an optional sign), which YAML reads
as a string. -/
def digitsButNotNumber (s : String) : Bool :=
  let cs := match s.toList with
    | '-' :: rest => rest
    | '+' :: rest => rest
    | cs => cs
  match cs with
  | '0' :: rest => !rest.isEmpty && rest.all Char.isDigit
  | _ => false

/-- The value of a digit in bases up to 36, or 36 for anything else. -/
def digitValue (c : Char) : Nat :=
  if '0' ≤ c && c ≤ '9' then c.toNat - 48
  else if 'a' ≤ c && c ≤ 'z' then c.toNat - 87
  else if 'A' ≤ c && c ≤ 'Z' then c.toNat - 55
  else 36

/-- The number a non-empty run of digits in a base spells. -/
def digitsValue (radix : Nat) : List Char → Nat → Option Nat
  | [], acc => some acc
  | c :: rest, acc =>
    let d := digitValue c
    if d < radix then digitsValue radix rest (acc * radix + d) else none

/-- The integer widths a scalar is tried at. -/
inductive Width where
  | unsigned64
  | signed64
  | unsigned128
  | signed128
  deriving Repr, DecidableEq

/-- Whether a width has a sign. -/
def Width.signed : Width → Bool
  | .signed64 | .signed128 => true
  | _ => false

/-- Whether a value fits a width. -/
def Width.fits (w : Width) (v : Int) : Bool :=
  match w with
  | .unsigned64 => 0 ≤ v && v < Int.pow 2 64
  | .signed64 => -(Int.pow 2 63) ≤ v && v < Int.pow 2 63
  | .unsigned128 => 0 ≤ v && v < Int.pow 2 128
  | .signed128 => -(Int.pow 2 127) ≤ v && v < Int.pow 2 127

/-- Reads an integer in a base at a width: an optional sign (`-` only when signed) and at
least one digit, all of which must be digits of the base. -/
def readRadix (w : Width) (radix : Nat) (s : List Char) : Option Int :=
  let v : Option Int :=
    match s with
    | [] | ['+'] | ['-'] => none
    | '+' :: rest => (digitsValue radix rest 0).map Int.ofNat
    | '-' :: rest => if w.signed then (digitsValue radix rest 0).map fun n => -(n : Int) else none
    | _ => (digitsValue radix s 0).map Int.ofNat
  v.filter w.fits

/-- Whether a list starts with a sign. -/
def startsWithSign : List Char → Bool
  | '+' :: _ | '-' :: _ => true
  | _ => false

/-- Reads an unsigned integer scalar at a width. -/
def readUnsigned (w : Width) (scalar : List Char) : Option Int :=
  let unpositive := match scalar with
    | '+' :: rest => rest
    | cs => cs
  let prefixed (marker : Char) (radix : Nat) : Option (Option Int) :=
    match unpositive with
    | '0' :: m :: rest =>
      if m != marker then none
      else if startsWithSign rest then some none
      else (readRadix w radix rest).map some
    | _ => none
  match prefixed 'x' 16 with
  | some r => r
  | none => match prefixed 'o' 8 with
    | some r => r
    | none => match prefixed 'b' 2 with
      | some r => r
      | none =>
        if startsWithSign unpositive then none
        else if digitsButNotNumber (String.ofList scalar) then none
        else readRadix w 10 unpositive

/-- Reads a signed integer scalar at a width. -/
def readSigned (w : Width) (scalar : List Char) : Option Int :=
  match scalar with
  | '+' :: rest => if startsWithSign rest then none else readSignedFrom rest
  | _ => readSignedFrom scalar
where
  /-- The reading once a leading `+` is gone. -/
  readSignedFrom (unpositive : List Char) : Option Int :=
    let prefixed (marker : Char) (radix : Nat) : Option (Option Int) :=
      match unpositive with
      | '0' :: m :: rest =>
        if m != marker then none
        else if startsWithSign rest then some none
        else (readRadix w radix rest).map some
      | _ => none
    let negative (marker : Char) (radix : Nat) : Option Int :=
      match scalar with
      | '-' :: '0' :: m :: rest => if m == marker then readRadix w radix ('-' :: rest) else none
      | _ => none
    let step (marker : Char) (radix : Nat) (k : Unit → Option Int) : Option Int :=
      match prefixed marker radix with
      | some (some v) => some v
      | some none => none
      | none => match negative marker radix with
        | some v => some v
        | none => k ()
    step 'x' 16 fun _ => step 'o' 8 fun _ => step 'b' 2 fun _ =>
      if digitsButNotNumber (String.ofList scalar) then none else readRadix w 10 unpositive

/-- How an integer scalar reads: within 64 bits, or only within 128 bits. -/
inductive IntegerText where
  | fits (value : Int)
  | wideUnsigned (value : Nat)
  | wideSigned (value : Int)
  deriving Repr

/-- Reads an integer scalar, trying unsigned and signed 64 bits, then 128 bits. -/
def readInteger (s : String) : Option IntegerText :=
  let cs := s.toList
  match readUnsigned .unsigned64 cs with
  | some v => some (.fits v)
  | none => match readSigned .signed64 cs with
    | some v => some (.fits v)
    | none => match readUnsigned .unsigned128 cs with
      | some v => some (.wideUnsigned v.toNat)
      | none => (readSigned .signed128 cs).map .wideSigned

/-- Whether two texts are equal ignoring ASCII case. -/
def sameIgnoringCase (a : List Char) (b : String) : Bool :=
  a.map Char.toLower == b.toList

/-- The digits of a run and the rest. -/
def spanDigits (s : List Char) : List Char × List Char := (s.takeWhile Char.isDigit, s.dropWhile Char.isDigit)

/-- The number spelled by decimal digits. -/
def decimalDigitsValue (ds : List Char) : Nat := ds.foldl (fun acc c => acc * 10 + (c.toNat - 48)) 0

/-- Reads decimal float notation: an optional sign, then `inf`, `infinity` or `nan` in any
case, or digits with an optional point and an optional exponent, with at least one digit
before or after the point. The result is the nearest 64-bit pattern, infinite on overflow. -/
def readDecimalFloat (s : List Char) : Option Binary64 :=
  let (negative, body) := match s with
    | '+' :: rest => (false, rest)
    | '-' :: rest => (true, rest)
    | cs => (false, cs)
  if sameIgnoringCase body "inf" || sameIgnoringCase body "infinity" then
    some (Binary64.ofParts negative 0x7FF 0)
  else if sameIgnoringCase body "nan" then some (Binary64.ofParts false 0x7FF (Nat.pow 2 51))
  else
    let (whole, afterWhole) := spanDigits body
    let (frac, afterFrac) := match afterWhole with
      | '.' :: rest => spanDigits rest
      | cs => ([], cs)
    if whole.isEmpty && frac.isEmpty then none
    else
      let exponent : Option Int := match afterFrac with
        | [] => some 0
        | e :: rest =>
          if e != 'e' && e != 'E' then none
          else
            let (sign, ds) : Int × List Char := match rest with
              | '+' :: ds => (1, ds)
              | '-' :: ds => (-1, ds)
              | ds => (1, ds)
            if ds.isEmpty || !ds.all Char.isDigit then none
            else some (sign * (decimalDigitsValue ds : Int))
      exponent.map fun e =>
        Binary64.ofDecimal negative (decimalDigitsValue (whole ++ frac)) (e - frac.length)

/-- How a float scalar reads. -/
inductive FloatText where
  | finite (x : Binary64)
  | infinite (negative : Bool)
  | nan
  deriving Repr

/-- Reads a float scalar: `.inf`, `-.inf` and `.nan` spellings, or finite decimal notation
after an optional single `+`. -/
def readFloat (s : String) : Option FloatText :=
  let cs := s.toList
  let unpositive : Option (List Char) := match cs with
    | '+' :: rest => if startsWithSign rest then none else some rest
    | _ => some cs
  match unpositive with
  | none => none
  | some u =>
    let ut := String.ofList u
    if ut == ".inf" || ut == ".Inf" || ut == ".INF" then some (.infinite false)
    else if s == "-.inf" || s == "-.Inf" || s == "-.INF" then some (.infinite true)
    else if s == ".nan" || s == ".NaN" || s == ".NAN" then some .nan
    else match readDecimalFloat u with
      | some x => if x.isFinite then some (.finite x) else none
      | none => none

/-- What an untagged plain scalar means. -/
inductive PlainValue where
  | null
  | bool (b : Bool)
  | integer (i : IntegerText)
  | float (f : FloatText)
  | string (s : String)
  deriving Repr

/-- Resolves an untagged plain scalar. -/
def resolvePlain (s : String) : PlainValue :=
  if s.isEmpty || isNullText s then .null
  else match boolText s with
    | some b => .bool b
    | none => match readInteger s with
      | some i => .integer i
      | none =>
        if digitsButNotNumber s then .string s
        else match readFloat s with
          | some f => .float f
          | none => .string s

end SwiftDevEnv.Yaml
