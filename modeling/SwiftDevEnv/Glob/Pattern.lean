import SwiftDevEnv.Text.Blank

/-!
# Glob patterns

A glob pattern describes a set of relative paths, `/` separating their components. `?` stands
for one byte other than `/`, `*` for a run of such bytes, `[...]` for one byte of a class
(`[!...]` or `[^...]` for one byte outside it), `{a,b}` for one of the comma-separated branches
of a group, and `\` makes the next character literal. Groups may hold groups. Every other
character stands for its bytes.

A `**` stands for whole components only where it is a whole component itself: at the start
before `/` or the end (no component or any leading ones), between two `/` (one `/` or any
components between two), after `/` at the end or the end of a branch (`/` and anything).
Elsewhere it is two `*`. A pattern that is only `**` matches every path.

In a class, a `]` or `-` right after the opening bracket stands for itself, as does a `-` at
the end; `a-z` is a range, and a `-` after a range extends the range to the next character.

Malformed patterns are refused: a class without its `]`, a range whose ends are reversed, a
group without its `}`, a `}` outside every group and a `\` at the end.
-/

namespace SwiftDevEnv.Glob

/-- A piece of a pattern that is not a group. -/
inductive Piece where
  /-- A character, standing for its UTF-8 bytes. -/
  | literal (c : Char)
  /-- `?`: one byte other than `/`. -/
  | anyByte
  /-- `*`: any run of bytes other than `/`. -/
  | anyRun
  /-- A leading `**/`: nothing, a `/`, or any text ending in `/`. -/
  | leadingComponents
  /-- A trailing `/**`: a `/` followed by anything. -/
  | trailingComponents
  /-- An inner `/**/`: a `/`, or two `/` with anything between them. -/
  | innerComponents
  /-- `[...]`: one byte of the class given by its character ranges, or outside it. -/
  | charClass (negated : Bool) (ranges : List (Char × Char))
  deriving DecidableEq, Repr, Inhabited

/-- An element of a pattern: a piece, or a group of branches of which one must match. Groups
may hold groups. -/
inductive Token where
  | piece (p : Piece)
  | group (branches : List (List Token))
  deriving Inhabited

/-- Why a pattern is malformed. -/
inductive ErrorKind where
  | unclosedClass
  | invalidRange (lo hi : Char)
  | unclosedGroup
  | unopenedGroup
  | danglingEscape
  deriving DecidableEq, Repr

/-- The description of a malformation. -/
def ErrorKind.message : ErrorKind → String
  | .unclosedClass => "unclosed character class; missing ']'"
  | .invalidRange lo hi => "invalid range; '" ++ lo.toString ++ "' > '" ++ hi.toString ++ "'"
  | .unclosedGroup => "unclosed alternate group; missing '\x7d' (maybe escape '\x7b' with '[\x7b]'?)"
  | .unopenedGroup => "unopened alternate group; missing '\x7b' (maybe escape '\x7d' with '[\x7d]'?)"
  | .danglingEscape => "dangling '\\'"

/-- A malformed pattern and why. -/
structure Error where
  pattern : String
  kind : ErrorKind
  deriving DecidableEq, Repr

/-- The message of a malformed pattern. -/
def Error.message (e : Error) : String :=
  "error parsing glob '" ++ e.pattern ++ "': " ++ e.kind.message

/-- The state of reading a pattern: the characters left, the last two read, the tokens of
the pattern outside groups so far (last first) and the open groups, innermost first. A group
holds its branches, the current one first, each with its last token first. -/
structure Reader where
  rest : List Char
  prev : Option Char
  cur : Option Char
  tokens : List Token
  groups : List (List (List Token))
  deriving Inhabited

/-- Reading a pattern. -/
abbrev ReadM := StateT Reader (Except ErrorKind)

namespace Reader

/-- Reads the next character, if any. -/
def bump : ReadM (Option Char) := do
  let r ← get
  match r.rest with
  | c :: rest =>
    set { r with rest, prev := r.cur, cur := some c }
    pure (some c)
  | [] =>
    set { r with prev := r.cur, cur := none }
    pure none

/-- The next character, not read. -/
def peek : ReadM (Option Char) := do pure (← get).rest.head?

/-- Adds a token to the current branch of the innermost group, or to the pattern outside
groups. -/
def pushToken (t : Token) : ReadM Unit :=
  modify fun r => match r.groups with
    | (b :: bs) :: gs => { r with groups := ((t :: b) :: bs) :: gs }
    | [] :: gs => { r with groups := [[t]] :: gs }
    | [] => { r with tokens := t :: r.tokens }

/-- Adds a piece to the current branch, or to the pattern outside groups. -/
def push (p : Piece) : ReadM Unit := pushToken (.piece p)

/-- Removes the last token of the current branch or of the pattern; gives it when it is a
piece. -/
def pop : ReadM (Option Piece) := do
  let r ← get
  let last ← match r.groups with
    | (b :: bs) :: gs => do
      set { r with groups := (b.drop 1 :: bs) :: gs }
      pure b.head?
    | _ => do
      set { r with tokens := r.tokens.drop 1 }
      pure r.tokens.head?
  match last with
  | some (.piece p) => pure (some p)
  | _ => pure none

/-- Whether the current branch, or the pattern outside groups, has tokens already. -/
def hasPieces : ReadM Bool := do
  let r ← get
  match r.groups with
  | (b :: _) :: _ => pure !b.isEmpty
  | [] :: _ => pure false
  | [] => pure !r.tokens.isEmpty

/-- Whether a group is open. -/
def inGroup : ReadM Bool := do pure !(← get).groups.isEmpty

/-- Opens a group, inside the innermost open group if there is one. -/
def openGroup : ReadM Unit :=
  modify fun r => { r with groups := [[]] :: r.groups }

/-- Closes the innermost open group and adds it as a token; there must be one. -/
def closeGroup : ReadM Unit := do
  let r ← get
  match r.groups with
  | g :: gs =>
    set { r with groups := gs }
    pushToken (.group (g.map List.reverse).reverse)
  | [] => throw .unopenedGroup

/-- A comma starts a new branch of the innermost group and is literal outside groups. -/
def comma : ReadM Unit := do
  match (← get).groups with
  | bs :: gs => modify fun r => { r with groups := ([] :: bs) :: gs }
  | [] => push (.literal ',')

/-- A backslash makes the next character literal. -/
def escape : ReadM Unit := do
  match ← bump with
  | some c => push (.literal c)
  | none => throw .danglingEscape

/-- Reads what follows a `*`. -/
def star : ReadM Unit := do
  let prev := (← get).prev
  if (← peek) != some '*' then
    push .anyRun
    return
  let _ ← bump
  if !(← hasPieces) then
    match ← peek with
    | none => push .leadingComponents
    | some '/' =>
      push .leadingComponents
      let _ ← bump
    | some _ =>
      push .anyRun
      push .anyRun
    return
  if prev != some '/' && (!(← inGroup) || (prev != some ',' && prev != some '\x7b')) then
    push .anyRun
    push .anyRun
    return
  let grouped ← inGroup
  let atEnd ← match ← peek with
    | none => pure (some true)
    | some ',' => pure (if grouped then some true else none)
    | some '\x7d' => pure (if grouped then some true else none)
    | some '/' =>
      let _ ← bump
      pure (some false)
    | some _ => pure none
  match atEnd with
  | none =>
    push .anyRun
    push .anyRun
  | some atEnd =>
    match ← pop with
    | some .leadingComponents => push .leadingComponents
    | some .trailingComponents => push .trailingComponents
    | _ => push (if atEnd then .trailingComponents else .innerComponents)

/-- Widens the last range of a class to end at `hi`; its start must not exceed it. -/
def widen (ranges : List (Char × Char)) (hi : Char) : Except ErrorKind (List (Char × Char)) :=
  match ranges with
  | (lo, _) :: rest => if hi < lo then .error (.invalidRange lo hi) else .ok ((lo, hi) :: rest)
  | [] => .ok []

/-- Reads a class after its `[`, up to and including its `]`. -/
def charClass : ReadM Unit := do
  let negated ← match ← peek with
    | some '!' | some '^' =>
      let _ ← bump
      pure true
    | _ => pure false
  let mut ranges : List (Char × Char) := []
  let mut first := true
  let mut inRange := false
  let mut closed := false
  for _ in [0:(← get).rest.length + 1] do
    let some c ← bump | break
    if c == ']' && !first then
      closed := true
      break
    else if c == ']' then ranges := (']', ']') :: ranges
    else if c == '-' then
      if first then ranges := ('-', '-') :: ranges
      else if inRange then
        ranges ← widen ranges '-'
        inRange := false
      else inRange := true
    else
      if inRange then ranges ← widen ranges c
      else ranges := (c, c) :: ranges
      inRange := false
    first := false
  if !closed then throw .unclosedClass
  if inRange then ranges := ('-', '-') :: ranges
  push (.charClass negated ranges.reverse)

/-- Reads a whole pattern. -/
def pattern : ReadM Unit := do
  for _ in [0:(← get).rest.length + 1] do
    let some c ← bump | break
    match c with
    | '?' => push .anyByte
    | '*' => star
    | '[' => charClass
    | '\x7b' => openGroup
    | '\x7d' => closeGroup
    | ',' => comma
    | '\\' => escape
    | c => push (.literal c)
  if ← inGroup then throw .unclosedGroup

end Reader

/-- A glob pattern, read. -/
structure Pattern where
  source : String
  tokens : List Token

/-- Reads a pattern; blanks around it are dropped first. -/
def Pattern.parse (text : String) : Except Error Pattern :=
  let source := Text.trim text
  match Reader.pattern.run ⟨source.toList, none, none, [], []⟩ with
  | .ok ((), r) => .ok ⟨source, r.tokens.reverse⟩
  | .error kind => .error ⟨source, kind⟩

end SwiftDevEnv.Glob
