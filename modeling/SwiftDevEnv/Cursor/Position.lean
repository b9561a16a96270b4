import SwiftDevEnv.Text.Utf8
import SwiftDevEnv.Completion

/-!
# Positions in a source text

The backend reports places as byte offsets; editors want zero-based lines and columns, columns
counted in characters. An offset beyond the text is clamped to its end, and one inside a
character moves back to the character's start. The line is the number of line feeds before the
place and the column the number of characters since the last of them.
-/

namespace SwiftDevEnv.Cursor

open SwiftDevEnv.Text SwiftDevEnv.Completion

/-- The line and column of a byte offset of a text. -/
def positionAt (text : String) (offset : Nat) : Nat × Nat :=
  let bytes := utf8Bytes text
  let b := boundaryAtOrBelow bytes (min offset bytes.length)
  let before := bytes.take b
  let line := before.count 10
  let lastLine := (before.reverse.takeWhile (· != 10)).reverse
  (line, lastLine.countP (fun x => !isContinuation x))

/-- The largest machine offset: sums of offsets stop there. -/
def offsetLimit : Nat := Nat.pow 2 64 - 1

/-- Where a declaration is: its file, byte offset and length. -/
structure Location where
  path : String
  offset : Nat
  length : Nat
  deriving DecidableEq, Repr

namespace Location

/-- The start and end positions of a declaration within its file's text; the end offset stops
at the largest machine offset. -/
def rangeIn (loc : Location) (text : String) : (Nat × Nat) × (Nat × Nat) :=
  (positionAt text loc.offset, positionAt text (min (loc.offset + loc.length) offsetLimit))

/-- The JSON form of a location. -/
def toJson (loc : Location) : Json.Value :=
  .ofMembers [("path", .string loc.path), ("offset", .ofNat loc.offset), ("length", .ofNat loc.length)]

end Location

end SwiftDevEnv.Cursor
