import SwiftDevEnv.Session.Basic
import SwiftDevEnv.Backend.Retry
import SwiftDevEnv.Wire.Request
import SwiftDevEnv.Wire.Response
import SwiftDevEnv.Compiler.Arguments
import SwiftDevEnv.Target.Index
import SwiftDevEnv.Cursor.Hover
import SwiftDevEnv.Cursor.Info
import SwiftDevEnv.Completion

/-!
# The editor's client of the backend

The client sends the editor's questions over a session: completions, cursor information,
hovers, definitions, demangling, opening buffers and formatting lines. Every request runs under
the retry policy, restarting the backend between attempts, and its answer is decoded as a
response payload. Requests about a source file carry the compiler arguments of the target that
holds it, on the client's host.

A hover asks for the cursor information, then demangles the enclosing type when there is one;
a failed demangling leaves the hover without it. Formatting opens the buffer, then formats the
lines of the range one by one; the first failure ends the run, and an empty range formats
nothing.
-/

namespace SwiftDevEnv.Session

open SwiftDevEnv.Backend SwiftDevEnv.Wire SwiftDevEnv.FileSystem

/-- A client: its session, the known targets, the host it compiles for and how often it
retries a request. -/
structure Client where
  session : Connection
  targets : TargetIndex
  host : Host
  maxRetries : UInt32

/-- A client operation. -/
abbrev ClientM := StateM Client

/-- Runs a session operation on the client's session. -/
def onSession {α : Type} (act : SessionM α) : ClientM α := do
  let c ← get
  let (a, s) := act.run c.session
  set { c with session := s }
  pure a

/-- Sends a request under the retry policy and decodes its answer. -/
def request (t : Tree) (payload : Payload) : ClientM (Except Error Json.Value) := do
  let attempts := (← get).maxRetries
  let raw ← retry attempts (fun _ => onSession (send t payload.text)) (do
    let _ ← onSession (restart t)
    pure ())
  pure (raw.bind decodeResponse)

/-- The compiler arguments for a source file. -/
def compilerArguments (path : Path) (text : String) : ClientM (List String) := do
  let c ← get
  pure (Compiler.resolveCompilerArguments (c.targets.targetFor path) path text c.host)

/-- The completion results at an offset, as the backend gives them. -/
def codeComplete (t : Tree) (text : String) (path : Path) (offset : Nat) :
    ClientM (Except Error Json.Value) := do
  let args ← compilerArguments path text
  let r ← request t (sourceRequest .codeComplete path.text offset args text)
  pure (r.map (·.project "key.results"))

/-- The information about the symbol at an offset. -/
def cursorInfo (t : Tree) (text : String) (path : Path) (offset : Nat) :
    ClientM (Except Error Json.Value) := do
  let args ← compilerArguments path text
  request t (sourceRequest .cursorInfo path.text offset args text)

/-- The completion items at an offset. -/
def completions (t : Tree) (text : String) (path : Path) (offset : Nat) :
    ClientM (Except Error (List Completion.Item)) := do
  let r ← codeComplete t text path offset
  pure (r.map fun results => Completion.items results text offset)

/-- The demangled names, as the backend gives them. -/
def demangle (t : Tree) (names : List String) : ClientM (Except Error Json.Value) := do
  let r ← request t (demangleRequest names)
  pure (r.map (·.project "key.results"))

/-- The hover of the symbol at an offset. -/
def hover (t : Tree) (text : String) (path : Path) (offset : Nat) :
    ClientM (Except Error (Option Cursor.Hover)) := do
  match ← cursorInfo t text path offset with
  | .error e => pure (.error e)
  | .ok info =>
    let container ← match Cursor.containerTypeUsr info with
      | some usr => do
        match ← demangle t [usr] with
        | .ok results => pure (Cursor.containerTypeName results)
        | .error _ => pure none
      | none => pure none
    pure (.ok (Cursor.hoverOf info container))

/-- Where the symbol at an offset is declared. -/
def definition (t : Tree) (text : String) (path : Path) (offset : Nat) :
    ClientM (Except Error (Option Cursor.Location)) := do
  let r ← cursorInfo t text path offset
  pure (r.map Cursor.definition)

/-- Registers a buffer with the backend. -/
def editorOpen (t : Tree) (text : String) (path : Path) : ClientM (Except Error Json.Value) := do
  let args ← compilerArguments path text
  request t (editorOpenRequest path.text text args)

/-- The edit the formatter proposes for one line. -/
structure LineEdit where
  line : Nat
  offset : Nat
  length : Nat
  text : String
  deriving DecidableEq, Repr

/-- The JSON form of a line edit. -/
def LineEdit.toJson (e : LineEdit) : Json.Value :=
  .ofMembers [("line", .ofNat e.line), ("offset", .ofNat e.offset), ("length", .ofNat e.length),
    ("text", .string e.text)]

/-- A non-negative integer of 64 bits in an answer. -/
def wordAt (v : Json.Value) (key : String) : Option Nat :=
  ((v.get? key).bind Json.Value.asNat?).bind fun n => if n < Nat.pow 2 64 then some n else none

/-- The edit of an answer for a line: the line it names when that fits 32 bits (else the line
asked for), the offset and length (else zero) and the replacement text (else empty). -/
def lineEdit (line : Nat) (answer : Json.Value) : LineEdit :=
  ⟨((wordAt answer "key.line").bind fun l => if l < Nat.pow 2 32 then some l else none).getD line,
    (wordAt answer "key.offset").getD 0, (wordAt answer "key.length").getD 0,
    ((answer.get? "key.sourcetext").bind Json.Value.asString?).getD ""⟩

/-- How far formatting a range of lines has got: the buffer is open, a line is to be formatted
next, every line is done, or a request failed. -/
inductive FormatState where
  | opened
  | formatting (line : UInt32)
  | done
  | failed (e : Error)

/-- How many turns the formatting loop has left at most from a state: one per line still to
format, and one to finish. -/
def FormatState.turnsLeft (first last : UInt32) : FormatState → Nat
  | .opened => last.toNat + 1 - first.toNat + 2
  | .formatting line => last.toNat + 1 - line.toNat + 1
  | .done | .failed _ => 0

/-- A line below another is followed by the line one more, without wrapping. -/
theorem toNat_add_one_of_lt {line last : UInt32} (h : line < last) :
    (line + 1).toNat = line.toNat + 1 := by
  have := last.toNat_lt
  rw [UInt32.lt_iff_toNat_lt] at h
  rw [UInt32.toNat_add, UInt32.toNat_one, Nat.mod_eq_of_lt (by simp; omega)]

/-- The formatting loop, from a state and the edits so far. An empty range is done at once;
otherwise each line from `first` on is formatted in turn, and the next line is taken only while
the last one is not reached, so a line number never passes `last`. -/
def formatLoop {m : Type → Type} [Monad m] (formatLine : UInt32 → m (Except Error Json.Value))
    (first last : UInt32) (state : FormatState) (edits : Array LineEdit) :
    m (Except Error (List LineEdit)) :=
  match state with
  | .opened =>
    if first > last then formatLoop formatLine first last .done edits
    else formatLoop formatLine first last (.formatting first) edits
  | .formatting line => do
    match ← formatLine line with
    | .ok answer =>
      let edits := edits.push (lineEdit line.toNat answer)
      if h : line ≥ last then formatLoop formatLine first last .done edits
      else formatLoop formatLine first last (.formatting (line + 1)) edits
    | .error e => formatLoop formatLine first last (.failed e) edits
  | .done => pure (.ok edits.toList)
  | .failed e => pure (.error e)
termination_by state.turnsLeft first last
decreasing_by
  all_goals simp only [FormatState.turnsLeft]
  · omega
  · omega
  · omega
  · -- the next line is taken only below `last`, so it is one more and does not wrap
    have hlt := UInt32.not_le.mp h
    rw [toNat_add_one_of_lt hlt]
    have := UInt32.lt_iff_toNat_lt.mp hlt
    omega
  · omega

/-- Formats the lines `first` to `last` with `formatLine`, once `openBuffer` has opened the
buffer; a failure to open ends the run before any line. -/
def formatRange {m : Type → Type} [Monad m] (openBuffer : m (Except Error Json.Value))
    (formatLine : UInt32 → m (Except Error Json.Value)) (first last : UInt32) :
    m (Except Error (List LineEdit)) := do
  let state := match ← openBuffer with
    | .ok _ => FormatState.opened
    | .error e => .failed e
  formatLoop formatLine first last state #[]

/-- Formats the lines `first` to `last` of a buffer, after opening it. -/
def formatLines (t : Tree) (text : String) (path : Path) (first last : UInt32)
    (options : FormatOptions) : ClientM (Except Error (List LineEdit)) :=
  formatRange (editorOpen t text path)
    (fun line => request t (formatTextRequest path.text line.toNat options)) first last

end SwiftDevEnv.Session
