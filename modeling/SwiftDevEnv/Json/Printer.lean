import SwiftDevEnv.Json.Value
import SwiftDevEnv.Decimal.Shortest

/-!
# Writing JSON text

Values are written in two layouts: compact, with no blank at all, and pretty, with each array
item and object member on a line of its own, indented two spaces per level, a colon and one
space after a key, and empty arrays and objects written `[]` and `{}`.

Strings escape the quote and the backslash, write backspace, form feed, line feed, carriage
return and tab as two-character escapes and the other controls below U+0020 as `\u00XX` with
lowercase hex digits; every other character, DEL included, stays as it is.

A float is written with the fewest digits that read back to it. Its decimal point stands
inside or after the digits when the number is at least `10^-5` and below `10^16`, with `.0`
after an integer; otherwise the digits take the form `d.ddde±x`, with no `+` and no padding in
the exponent, and a single digit drops its point (`1e20`).
-/

namespace SwiftDevEnv.Json

open SwiftDevEnv.Decimal

/-- Hexadecimal digits, lowercase. -/
def hexDigit (n : Nat) : Char :=
  if n < 10 then Char.ofNat (48 + n) else Char.ofNat (87 + n)

/-- The escaped form of one character inside a string literal. -/
def escapeChar (c : Char) : List Char :=
  if c = '"' then ['\\', '"']
  else if c = '\\' then ['\\', '\\']
  else if c = '\n' then ['\\', 'n']
  else if c = '\r' then ['\\', 'r']
  else if c = '\t' then ['\\', 't']
  else if c.toNat = 8 then ['\\', 'b']
  else if c.toNat = 12 then ['\\', 'f']
  else if c.toNat < 0x20 then
    ['\\', 'u', '0', '0', hexDigit (c.toNat / 16), hexDigit (c.toNat % 16)]
  else [c]

/-- A string literal: the text between quotes, escaped. -/
def quote (s : String) : String :=
  String.ofList ('"' :: (s.toList.flatMap escapeChar ++ ['"']))

/-- `n` copies of a character. -/
def repeatChar (c : Char) (n : Nat) : String :=
  String.ofList (List.replicate n c)

/-- The decimal text of a finite float: the fewest digits that read back, written positionally
when the value is at least 10^-5 and below 10^16, and as digits and a power of ten outside that.
With `signedExponent` a positive power is written with a `+`. -/
def floatTextWith (signedExponent : Bool) (x : Binary64) : String :=
  let sign := if x.negative then "-" else ""
  if x.isZero then sign ++ "0.0"
  else
    let s := x.shortest
    let digits := toString s.digits
    let length : Int := digits.length
    let k := s.exponent
    let kk := length + k
    let power := "e" ++ (if signedExponent && kk - 1 > 0 then "+" else "") ++ toString (kk - 1)
    let body :=
      if 0 ≤ k && kk ≤ 16 then digits ++ repeatChar '0' k.toNat ++ ".0"
      else if 0 < kk && kk ≤ 16 then
        String.ofList (digits.toList.take kk.toNat) ++ "." ++
          String.ofList (digits.toList.drop kk.toNat)
      else if -5 < kk && kk ≤ 0 then "0." ++ repeatChar '0' (-kk).toNat ++ digits
      else if length = 1 then digits ++ power
      else
        String.ofList (digits.toList.take 1) ++ "." ++ String.ofList (digits.toList.drop 1) ++ power
    sign ++ body

/-- The decimal text of a finite float in JSON output, a positive power of ten signed. -/
def floatText (x : Binary64) : String := floatTextWith true x

/-- The text of a number. -/
def Number.text : Number → String
  | .int i => toString i
  | .float x => if x.isFinite then floatText x else "null"

mutual

/-- The compact text of a value. -/
def Value.compact : Value → String
  | .null => "null"
  | .bool b => if b then "true" else "false"
  | .number n => n.text
  | .string s => quote s
  | .array items => "[" ++ Value.compactItems items ++ "]"
  | .object members => "\x7b" ++ Value.compactMembers members ++ "\x7d"

/-- Compact array items separated by commas. -/
def Value.compactItems : List Value → String
  | [] => ""
  | [v] => v.compact
  | v :: rest => v.compact ++ "," ++ Value.compactItems rest

/-- Compact object members separated by commas. -/
def Value.compactMembers : List (String × Value) → String
  | [] => ""
  | [(k, v)] => quote k ++ ":" ++ v.compact
  | (k, v) :: rest => quote k ++ ":" ++ v.compact ++ "," ++ Value.compactMembers rest

end

mutual

/-- The pretty text of a value whose first line is already indented `depth` levels. -/
def Value.prettyAt (depth : Nat) : Value → String
  | .array [] => "[]"
  | .object [] => "\x7b\x7d"
  | .array items =>
    "[\n" ++ Value.prettyItems (depth + 1) items ++ "\n" ++ repeatChar ' ' (2 * depth) ++ "]"
  | .object members =>
    "\x7b\n" ++ Value.prettyMembers (depth + 1) members ++ "\n" ++ repeatChar ' ' (2 * depth) ++
      "\x7d"
  | v => v.compact

/-- Pretty array items, one per line. -/
def Value.prettyItems (depth : Nat) : List Value → String
  | [] => ""
  | [v] => repeatChar ' ' (2 * depth) ++ v.prettyAt depth
  | v :: rest =>
    repeatChar ' ' (2 * depth) ++ v.prettyAt depth ++ ",\n" ++ Value.prettyItems depth rest

/-- Pretty object members, one per line. -/
def Value.prettyMembers (depth : Nat) : List (String × Value) → String
  | [] => ""
  | [(k, v)] => repeatChar ' ' (2 * depth) ++ quote k ++ ": " ++ v.prettyAt depth
  | (k, v) :: rest =>
    repeatChar ' ' (2 * depth) ++ quote k ++ ": " ++ v.prettyAt depth ++ ",\n" ++
      Value.prettyMembers depth rest

end

/-- The pretty text of a value. -/
def Value.pretty (v : Value) : String := v.prettyAt 0

end SwiftDevEnv.Json
