import SwiftDevEnv.Toml.Grammar
import SwiftDevEnv.Toml.Datetime
import SwiftDevEnv.Decimal.Binary64

/-!
# Numbers, booleans and date-times of a settings file

An integer is decimal, with an optional sign and no leading zero, or hexadecimal, octal or
binary after `0x`, `0o` or `0b`; single underscores may stand between digits. It must fit in
a signed 64-bit word. A float is a decimal integer part followed by a fraction, an exponent or
both, or `inf` or `nan` with an optional sign; it is rounded to the nearest binary64 value, and
one that rounds to positive infinity is refused.

A date-time is a date, a time of day, or a date and a time joined by `T`, `t` or a space, with
an optional offset after a time that follows a date. Months, days, hours, minutes and seconds
are checked against their ranges, the day against its month.
-/

namespace SwiftDevEnv.Toml

open SwiftDevEnv.Decimal

/-- The message of an integer that does not fit in a signed 64-bit word. -/
def integerOverflow (negative : Bool) : String :=
  if negative then "number too small to fit in target type" else "number too large to fit in target type"

/-- Whether an integer fits in a signed 64-bit word. -/
def fitsWord (i : Int) : Bool := -(Int.pow 2 63 : Int) ≤ i && i < Int.pow 2 63

/-- The value of digit bytes in a base, underscores skipped. -/
def digitsValue (base : Nat) (bytes : List UInt8) : Nat :=
  bytes.foldl (fun acc b => if b == 0x5F then acc else acc * base + hexValue b) 0

namespace Grammar

/-- One decimal digit. -/
def digit : Grammar Unit := do let _ ← byteWhere isDigitByte

/-- Digits of a class with single underscores between them, after a first digit. -/
def digitsAfterFirst (isDigit : UInt8 → Bool) : Grammar Unit := do
  for _ in [0:(← size) + 1] do
    let more ← optional <| orElse (do let _ ← byteWhere isDigit)
      (do byte 0x5F; commit (within (.expected "digit") (do let _ ← byteWhere isDigit)))
    if more.isNone then break

/-- A decimal integer as written: an optional sign, then `0` or a nonzero digit and more
digits. -/
def decimalInteger : Grammar Unit :=
  labelled "integer" do
    let _ ← optional (byteWhere fun b => b == 0x2B || b == 0x2D)
    orElse (do let _ ← byteWhere (inRange 0x31 0x39); digitsAfterFirst isDigitByte) digit

/-- Digits that may start with zero. -/
def zeroPrefixable : Grammar Unit := do
  digit
  digitsAfterFirst isDigitByte

/-- An integer in a base after its prefix. -/
def prefixedInteger (pre : String) (label : String) (base : Nat) (isDigit : UInt8 → Bool) :
    Grammar Int := do
  let start ← pos
  let bytes ← labelled label do
    literal pre
    let a ← pos
    commit do
      let _ ← byteWhere isDigit
      digitsAfterFirst isDigit
    slice a (← pos)
  let value := digitsValue base bytes.toList
  if value < Nat.pow 2 63 then pure value else refuse start (integerOverflow false)

/-- An integer in any of its notations. -/
def integer : Grammar Int := do
  if ← startsWith "0x" then commit (prefixedInteger "0x" "hexadecimal integer" 16 isHexByte)
  else if ← startsWith "0o" then commit (prefixedInteger "0o" "octal integer" 8 (inRange 0x30 0x37))
  else if ← startsWith "0b" then commit (prefixedInteger "0b" "binary integer" 2 (inRange 0x30 0x31))
  else
    let start ← pos
    decimalInteger
    let bytes ← slice start (← pos)
    let negative := bytes[0]? == some 0x2D
    let magnitude := digitsValue 10 (bytes.toList.filter isDigitByte)
    let value : Int := if negative then -(magnitude : Int) else magnitude
    if fitsWord value then pure value else refuse start (integerOverflow negative)

/-- The value of the text of a finite float: sign, digits, fraction and exponent. -/
def floatValue (bytes : List UInt8) : Binary64 :=
  let bytes := bytes.filter (· != 0x5F)
  let (negative, body) := match bytes with
    | 0x2D :: rest => (true, rest)
    | 0x2B :: rest => (false, rest)
    | bs => (false, bs)
  let whole := body.takeWhile isDigitByte
  let afterWhole := body.dropWhile isDigitByte
  let (frac, afterFrac) := match afterWhole with
    | 0x2E :: rest => (rest.takeWhile isDigitByte, rest.dropWhile isDigitByte)
    | bs => ([], bs)
  let exponent : Int := match afterFrac with
    | _ :: 0x2D :: ds => -(digitsValue 10 ds : Int)
    | _ :: 0x2B :: ds => digitsValue 10 ds
    | _ :: ds => digitsValue 10 ds
    | [] => 0
  Binary64.ofDecimal negative (digitsValue 10 (whole ++ frac)) (exponent - frac.length)

/-- An exponent: `e` or `E`, an optional sign, digits. -/
def exponentPart : Grammar Unit := do
  let _ ← byteWhere fun b => b == 0x65 || b == 0x45
  let _ ← optional (byteWhere fun b => b == 0x2B || b == 0x2D)
  commit zeroPrefixable

/-- A fraction: a point and digits. -/
def fractionPart : Grammar Unit := do
  byte 0x2E
  commit (within (.expected "digit") zeroPrefixable)

/-- Positive infinity. -/
def infinity : Grammar Binary64 := do literal "inf"; pure Binary64.infinity

/-- A quiet NaN. -/
def notANumber : Grammar Binary64 := do literal "nan"; pure (Binary64.ofParts false 0x7FF (Nat.pow 2 51))

/-- Infinity or NaN with an optional sign. -/
def specialFloat : Grammar Binary64 := do
  let sign ← optional (byteWhere fun b => b == 0x2B || b == 0x2D)
  let x ← orElse infinity notANumber
  pure (if sign == some 0x2D then ⟨x.bits ^^^ ((1 : UInt64) <<< 63)⟩ else x)

/-- A float in any of its notations. -/
def float : Grammar Binary64 :=
  labelled "floating-point number" <| orElse
    (do
      let start ← pos
      decimalInteger
      orElse exponentPart (do fractionPart; let _ ← optional exponentPart)
      let x := floatValue (← slice start (← pos)).toList
      if x.bits == Binary64.infinity.bits then throw ⟨start, [], none, true⟩ else pure x)
    specialFloat

/-- Exactly `n` decimal digits and their value. -/
def digitsExactly (n : Nat) : Grammar Nat := do
  let start ← pos
  let count ← spanUpTo n isDigitByte
  if count != n then failAt start
  return digitsValue 10 (← slice start (start + n)).toList

/-- Two digits whose value lies from `lo` to `hi`. -/
def twoDigitsIn (lo hi : Nat) : Grammar Nat := do
  let start ← pos
  let v ← digitsExactly 2
  if lo ≤ v && v ≤ hi then pure v else refuseSoftly start "value is out of range"

/-- A date: four-digit year, month and day, the day checked against the month. -/
def fullDate : Grammar Date := do
  let year ← digitsExactly 4
  byte 0x2D
  let month ← commit (twoDigitsIn 1 12)
  commit (byte 0x2D)
  let dayStart ← pos
  let day ← commit (twoDigitsIn 1 31)
  if day > daysInMonth year month then refuse dayStart "value is out of range"
  return ⟨year, month, day⟩

/-- The fraction of a second, truncated to nanoseconds. -/
def secondFraction : Grammar Nat := do
  byte 0x2E
  let start ← pos
  let _ ← span1 1 isDigitByte
  let digits := (← slice start (← pos)).toList.take 9
  return digitsValue 10 digits * Nat.pow 10 (9 - digits.length)

/-- A time of day: hour, minute, second and an optional fraction. -/
def partialTime : Grammar Time := do
  let hour ← twoDigitsIn 0 23
  byte 0x3A
  commit do
    let minute ← twoDigitsIn 0 59
    byte 0x3A
    let second ← twoDigitsIn 0 60
    let nanos ← optional secondFraction
    return ⟨hour, minute, second, nanos.getD 0⟩

/-- An offset: `Z`, `z`, or a sign with hours and minutes. -/
def timeOffset : Grammar Offset :=
  labelled "time offset" <| orElse (do let _ ← byteWhere fun b => b == 0x5A || b == 0x7A; pure .utc)
    (do
      let sign ← byteWhere fun b => b == 0x2B || b == 0x2D
      let (h, m) ← commit do
        let h ← twoDigitsIn 0 23
        byte 0x3A
        let m ← twoDigitsIn 0 59
        pure (h, m)
      let minutes : Int := h * 60 + m
      pure (.minutes (if sign == 0x2D then -minutes else minutes)))

/-- A date-time in any of its forms. -/
def datetime : Grammar Datetime :=
  orElse
    (labelled "date-time" do
      let date ← fullDate
      let rest ← optional do
        let _ ← byteWhere fun b => b == 0x54 || b == 0x74 || b == 0x20
        let time ← partialTime
        let offset ← optional timeOffset
        pure (time, offset)
      match rest with
      | some (time, offset) => pure ⟨some date, some time, offset⟩
      | none => pure ⟨some date, none, none⟩)
    (labelled "time" do
      let time ← partialTime
      pure ⟨none, some time, none⟩)

end Grammar

end SwiftDevEnv.Toml
