/-!
# YAML streams: marks, tokens, events and syntax errors

A YAML text is read in three stages: a reader turns bytes into characters, a scanner turns
characters into tokens and a parser turns tokens into events. This file holds what the
stages share: the position of a character (its mark), the tokens, the events and the error a
stage reports.

A mark counts characters, not bytes; lines and columns start at zero and are shown from one.
An error carries the problem, where it was found, and optionally what was being read when it
was found and where that began.
-/

namespace SwiftDevEnv.Yaml

/-- A position in the character stream: character index, line and column, all from zero. -/
structure Mark where
  index : Nat
  line : Nat
  column : Nat
  deriving Repr, DecidableEq, Inhabited

namespace Mark

/-- The start of the stream. -/
def origin : Mark := ⟨0, 0, 0⟩

/-- Whether the mark is on the first column of the first line, where no position is shown. -/
def atOrigin (m : Mark) : Bool := m.line == 0 && m.column == 0

/-- Whether two marks name the same line and column. -/
def samePlace (a b : Mark) : Bool := a.line == b.line && a.column == b.column

/-- The mark as shown in messages, counting lines and columns from one. -/
def text (m : Mark) : String := s!"line {m.line + 1} column {m.column + 1}"

end Mark

/-- How a scalar was written. -/
inductive ScalarStyle
  | plain
  | singleQuoted
  | doubleQuoted
  | literal
  | folded
  deriving Repr, DecidableEq, Inhabited

/-- What a token is, with the data it carries. Tag parts are bytes: an escaped tag may hold
bytes that are not text. -/
inductive TokenKind
  | streamStart
  | streamEnd
  | versionDirective (major minor : Nat)
  | tagDirective (handle pfx : List UInt8)
  | documentStart
  | documentEnd
  | blockSequenceStart
  | blockMappingStart
  | blockEnd
  | flowSequenceStart
  | flowSequenceEnd
  | flowMappingStart
  | flowMappingEnd
  | blockEntry
  | flowEntry
  | key
  | value
  | alias (name : String)
  | anchor (name : String)
  | tag (handle suffix : List UInt8)
  | scalar (text : String) (style : ScalarStyle)
  deriving Repr, Inhabited

/-- A token with the marks of its first character and of the character after it. -/
structure Token where
  kind : TokenKind
  start : Mark
  stop : Mark
  deriving Repr, Inhabited

/-- A resolved tag, as bytes. -/
abbrev Tag := List UInt8

/-- What an event is. Collections open and close; scalars and aliases stand alone. -/
inductive EventKind
  | streamStart
  | streamEnd
  | documentStart
  | documentEnd
  | alias (name : String)
  | scalar (anchor : Option String) (tag : Option Tag) (text : String) (style : ScalarStyle)
  | sequenceStart (anchor : Option String) (tag : Option Tag)
  | sequenceEnd
  | mappingStart (anchor : Option String) (tag : Option Tag)
  | mappingEnd
  deriving Repr, Inhabited

/-- An event with the mark where it starts. -/
structure Event where
  kind : EventKind
  start : Mark
  deriving Repr, Inhabited

/-- A failure of the reader, the scanner or the parser. The reader reports a byte offset and
no mark; the others report a mark and leave the offset at zero. -/
structure StreamError where
  problem : String
  problemMark : Mark
  offset : Nat
  context : Option (String × Mark)
  deriving Repr, Inhabited

namespace StreamError

/-- A failure at a mark with nothing more to say about where it happened. -/
def located (problem : String) (m : Mark) : StreamError := ⟨problem, m, 0, none⟩

/-- A failure at a mark, found while reading something that began at another mark. -/
def within (context : String) (contextMark : Mark) (problem : String) (m : Mark) : StreamError :=
  ⟨problem, m, 0, some (context, contextMark)⟩

/-- The message: the problem and its position (a mark, else a nonzero byte offset), then the
context and its mark when that mark is shown and differs from the problem's. -/
def message (e : StreamError) : String :=
  let place :=
    if !e.problemMark.atOrigin then " at " ++ e.problemMark.text
    else if e.offset != 0 then s!" at position {e.offset}"
    else ""
  let context :=
    match e.context with
    | none => ""
    | some (c, m) =>
      ", " ++ c ++ (if !m.atOrigin && !m.samePlace e.problemMark then " at " ++ m.text else "")
  e.problem ++ place ++ context

end StreamError

end SwiftDevEnv.Yaml
