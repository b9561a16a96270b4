import SwiftDevEnv.Toml.Node

/-!
# Errors of a settings file

An error has a message and, when it can be placed, the text it was found in and the range of
bytes it is about. A placed error is shown with a header naming its line and column (both from
one), the line itself behind a gutter with its number, and carets under the range, at least
one and at most to the end of that line; then the message. An error that cannot be placed
shows its message and, when it was found inside tables, the dotted path of keys that led to
it.

The column counts characters from the start of the line up to the byte of the error, except
when that byte starts a character of several bytes, where it counts bytes; a position at the
very end is shown just past the last byte.
-/

namespace SwiftDevEnv.Toml

/-- A settings-file error. -/
structure TomlError where
  message : String
  raw : Option String
  span : Option Span
  keys : List String
  deriving Repr, Inhabited

/-- The line and column, both from zero, of a byte index of a text. -/
def translatePosition (input : ByteArray) (index : Nat) : Nat × Nat :=
  if input.size = 0 then (0, index)
  else
    let safe := min index (input.size - 1)
    let beyond := index - safe
    let before := (input.extract 0 safe).toList
    let lineStart := match (before.zipIdx.filter (·.1 == 0x0A)).getLast? with
      | some (_, i) => i + 1
      | none => 0
    let line := ((input.extract 0 lineStart).toList.filter (· == 0x0A)).length
    let column := match String.fromUTF8? (input.extract lineStart (safe + 1)) with
      | some s => s.length - 1
      | none => safe - lineStart
    (line, column + beyond)

/-- The text of an error. -/
def TomlError.text (e : TomlError) : String :=
  match e.raw, e.span with
  | some raw, some span =>
    let (line, column) := translatePosition raw.toUTF8 span.start
    let lineNumber := toString (line + 1)
    let gutter := String.ofList (List.replicate (lineNumber.length + 1) ' ')
    let content := ((raw.splitOn "\n")[line]?).getD ""
    let width := min (span.stop - span.start) (content.utf8ByteSize - column)
    let carets := String.ofList (List.replicate (max width 1) '^')
    s!"TOML parse error at line {line + 1}, column {column + 1}\n" ++
      gutter ++ "|\n" ++
      lineNumber ++ " | " ++ content ++ "\n" ++
      gutter ++ "|" ++ String.ofList (List.replicate (column + 1) ' ') ++ carets ++ "\n" ++
      e.message ++ "\n"
  | _, _ =>
    e.message ++ "\n" ++
      (if e.keys.isEmpty then "" else "in \x60" ++ ".".intercalate e.keys ++ "\x60\n")

end SwiftDevEnv.Toml
