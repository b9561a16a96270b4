import SwiftDevEnv.Backend.Error
import SwiftDevEnv.Text.Blank
import SwiftDevEnv.Text.Utf8

/-!
# Frames on the backend's stream

The backend answers each request with a frame: a line holding the decimal request id, then the
payload, which ends with a closing brace and two line feeds. Output is accumulated until it
ends with that terminator; the accumulated bytes then split at the first line feed into the id
line and the payload.

An id line is read after trimming Unicode blanks from both ends: an optional `+` and at least
one ASCII digit, with a value below `2^64`.
-/

namespace SwiftDevEnv.Wire

open SwiftDevEnv.Backend SwiftDevEnv.Text

/-- The bytes that end every frame: a closing brace and two line feeds. -/
def terminator : List UInt8 := [125, 10, 10]

/-- The line that announces request `id`. -/
def idLine (id : Nat) : String := toString id ++ "\n"

/-- Whether accumulated output forms a whole frame: it ends with the terminator. -/
def isCompleteFrame (bytes : List UInt8) : Bool :=
  terminator.isSuffixOf bytes

/-- The value of a decimal id text: an optional `+` and one or more ASCII digits, below
`2^64`. -/
def parseId (text : String) : Option Nat :=
  let cs := text.toList
  let digits := match cs with
    | '+' :: rest => rest
    | _ => cs
  if digits.isEmpty || !digits.all Char.isDigit then none
  else
    let n := digits.foldl (fun acc c => acc * 10 + (c.toNat - 48)) 0
    if n < Nat.pow 2 64 then some n else none

/-- Splits a frame into its request id and payload bytes. -/
def splitFrame (frame : List UInt8) : Except Error (Nat × List UInt8) :=
  match frame.idxOf? 10 with
  | none => .error (.malformedFrame "missing id line")
  | some i =>
    match decode (frame.take i) with
    | .error _ => .error (.malformedFrame "id line is not UTF-8")
    | .ok line =>
      let text := trim line
      match parseId text with
      | some id => .ok (id, frame.drop (i + 1))
      | none => .error (.malformedFrame text)

end SwiftDevEnv.Wire
