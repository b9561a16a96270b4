import SwiftDevEnv.Json.Printer

/-!
# Request payloads

A request to the backend is a block of `key: value` entries between braces, one entry per
line indented by two spaces, entries separated by commas, and the block followed by an empty
line. The first entry names the request kind. Values are bare numbers, JSON strings, JSON
arrays of strings without blanks, or a nested block for the format options.

Since strings are written as JSON literals, a payload holds a line feed only as the layout's
own, and its only closing brace at the start of a line is its last one.
-/

namespace SwiftDevEnv.Wire

open SwiftDevEnv.Json

/-- The kinds of request the backend understands. -/
inductive RequestKind where
  | codeComplete
  | cursorInfo
  | demangle
  | editorOpen
  | editorFormatText
  deriving DecidableEq, Repr, Inhabited

/-- The value of the `key.request` entry. -/
def RequestKind.wireName : RequestKind → String
  | .codeComplete => "source.request.codecomplete"
  | .cursorInfo => "source.request.cursorinfo"
  | .demangle => "source.request.demangle"
  | .editorOpen => "source.request.editor.open"
  | .editorFormatText => "source.request.editor.formattext"

/-- An encoded request: its kind and its text. -/
structure Payload where
  kind : RequestKind
  text : String
  deriving DecidableEq, Repr, Inhabited

/-- How the formatter indents. -/
structure FormatOptions where
  indentWidth : UInt8 := 4
  tabWidth : UInt8 := 4
  useTabs : Bool := false
  deriving DecidableEq, Repr, Inhabited

/-- A JSON array of strings without blanks. -/
def stringArray (values : List String) : String :=
  "[" ++ ",".intercalate (values.map quote) ++ "]"

/-- The payload of a request with the given entries after the kind entry. -/
def Payload.build (kind : RequestKind) (entries : List (String × String)) : Payload :=
  let lines := (("key.request", kind.wireName) :: entries).map (fun (k, v) => "  " ++ k ++ ": " ++ v)
  ⟨kind, "\x7b\n" ++ ",\n".intercalate lines ++ "\n\x7d\n\n"⟩

/-- A completion or cursor-info request on a source text. -/
def sourceRequest (kind : RequestKind) (path : String) (offset : Nat) (args : List String)
    (text : String) : Payload :=
  Payload.build kind
    [("key.sourcefile", quote path), ("key.offset", toString offset),
      ("key.compilerargs", stringArray args), ("key.sourcetext", quote text)]

/-- A request to demangle symbol names. -/
def demangleRequest (names : List String) : Payload :=
  Payload.build .demangle [("key.names", stringArray names)]

/-- A request that registers a buffer. -/
def editorOpenRequest (path text : String) (args : List String) : Payload :=
  Payload.build .editorOpen
    [("key.name", quote path), ("key.sourcetext", quote text), ("key.compilerargs", stringArray args)]

/-- A request that formats one line of a registered buffer. -/
def formatTextRequest (path : String) (line : Nat) (options : FormatOptions) : Payload :=
  let nested :=
    "\x7b\n    key.editor.format.indentwidth: " ++ toString options.indentWidth ++
      ",\n    key.editor.format.tabwidth: " ++ toString options.tabWidth ++
      ",\n    key.editor.format.usetabs: " ++ (if options.useTabs then "1" else "0") ++ "\n  \x7d"
  Payload.build .editorFormatText
    [("key.name", quote path), ("key.line", toString line), ("key.length", "1"),
      ("key.editor.format.options", nested)]

end SwiftDevEnv.Wire
