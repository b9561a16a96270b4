import SwiftDevEnv.Decimal.Shortest
import SwiftDevEnv.Text.Quote

/-!
# What a typed reader found

When a reader expects one kind of value and finds another, its message names what it found:
`integer 5`, `string "a"`, `sequence`, and so on, then what it expected. Floating point numbers
are written in plain decimal notation, without an exponent, with at least one digit after the
point.
-/

namespace SwiftDevEnv.Decoding

open SwiftDevEnv.Decimal

/-- The kind of value a reader found where it expected another. -/
inductive Found where
  | bool (b : Bool)
  | unsigned (n : Nat)
  | signed (i : Int)
  | float (x : Binary64)
  | str (s : String)
  | unit
  | seq
  | map
  | enum
  | other (text : String)
  deriving Repr

/-- A finite float in plain decimal notation with its shortest digits, and `.0` when no point
is needed otherwise; infinities and NaN by name. -/
def plainFloatText (x : Binary64) : String :=
  let sign := if x.negative then "-" else ""
  if !x.isFinite then
    if x.fraction != 0 then "NaN" else sign ++ "inf"
  else if x.isZero then sign ++ "0.0"
  else
    let s := x.shortest
    let digits := (toString s.digits).toList
    let n : Int := digits.length
    let k := s.exponent
    let body :=
      if 0 ≤ k then String.ofList digits ++ String.ofList (List.replicate k.toNat '0') ++ ".0"
      else if n + k > 0 then
        String.ofList (digits.take (n + k).toNat) ++ "." ++ String.ofList (digits.drop (n + k).toNat)
      else "0." ++ String.ofList (List.replicate (-(n + k)).toNat '0') ++ String.ofList digits
    sign ++ body

/-- How a found value is named in a message. -/
def Found.describe : Found → String
  | .bool b => s!"boolean `{b}`"
  | .unsigned n => s!"integer `{n}`"
  | .signed i => s!"integer `{i}`"
  | .float x => "floating point `" ++ plainFloatText x ++ "`"
  | .str s => "string " ++ Text.debugQuote s
  | .unit => "unit value"
  | .seq => "sequence"
  | .map => "map"
  | .enum => "enum"
  | .other text => text

/-- The message for a value of the wrong kind. -/
def invalidType (found : Found) (expecting : String) : String :=
  "invalid type: " ++ found.describe ++ ", expected " ++ expecting

/-- The message for a value of the right kind that is not allowed. -/
def invalidValue (found : Found) (expecting : String) : String :=
  "invalid value: " ++ found.describe ++ ", expected " ++ expecting

end SwiftDevEnv.Decoding
