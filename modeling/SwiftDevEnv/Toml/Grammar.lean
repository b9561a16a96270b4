/-!
# Reading the bytes of a settings file

The reader of a settings file walks its bytes with a position. A step either succeeds,
moving the position, or fails at a position with a record of what it was reading. A failure
is either soft, when another reading of the same bytes may still be tried, or committed, when
the bytes can only mean what was being read and the whole reading stops there.

What a failure was inside of is a list of contexts, innermost first: labels name the construct
("invalid key"), expectations name what would have fit ("expected `.`, `=`"), and a cause
says why an otherwise well-formed piece was refused. The message shows the innermost label,
then every expectation in order, then the cause, one per line.

This file also holds the pieces of layout every part of the grammar shares: blanks, comments
and line ends.
-/

namespace SwiftDevEnv.Toml

/-- One thing a failed reading was inside of. -/
inductive Context where
  | label (what : String)
  | expected (what : String)
  deriving DecidableEq, Repr

/-- Where and why a reading failed. -/
structure Failure where
  pos : Nat
  contexts : List Context
  cause : Option String
  committed : Bool
  deriving Repr

/-- The message of a failure: the innermost label, the expectations, the cause. -/
def Failure.message (f : Failure) : String :=
  let label := f.contexts.findSome? fun | .label w => some w | .expected _ => none
  let expected := f.contexts.filterMap fun | .expected w => some w | .label _ => none
  let parts := (label.map ("invalid " ++ ·)).toList ++
    (if expected.isEmpty then [] else ["expected " ++ ", ".intercalate expected]) ++
    f.cause.toList
  "\n".intercalate parts

/-- How a character that would have fit is named. -/
def charExpectation (c : Char) : String :=
  if c = '\n' then "newline" else "\x60" ++ c.toString ++ "\x60"

/-- A reading of the bytes of a text, from a position. -/
abbrev Grammar := ReaderT ByteArray (StateT Nat (Except Failure))

namespace Grammar

/-- The current position. -/
def pos : Grammar Nat := get

/-- The number of bytes of the text. -/
def size : Grammar Nat := do return (← read).size

/-- The byte at the position, if any. -/
def peek : Grammar (Option UInt8) := do return (← read)[← get]?

/-- The byte `k` places after the position, if any. -/
def peekAt (k : Nat) : Grammar (Option UInt8) := do return (← read)[(← get) + k]?

/-- Moves the position on by `k` bytes. -/
def advance (k : Nat) : Grammar Unit := modify (· + k)

/-- Fails softly at a position. -/
def failAt {α : Type} (p : Nat) : Grammar α := throw ⟨p, [], none, false⟩

/-- Fails softly here. -/
def fail {α : Type} : Grammar α := do failAt (← get)

/-- Fails here, committed, with a cause. -/
def refuse {α : Type} (p : Nat) (cause : String) : Grammar α := throw ⟨p, [], some cause, true⟩

/-- Fails softly at a position with a cause. -/
def refuseSoftly {α : Type} (p : Nat) (cause : String) : Grammar α :=
  throw ⟨p, [], some cause, false⟩

/-- Adds a context to any failure of `g`. -/
def within {α : Type} (c : Context) (g : Grammar α) : Grammar α :=
  tryCatch g fun f => throw { f with contexts := f.contexts ++ [c] }

/-- Adds a label to any failure of `g`. -/
def labelled {α : Type} (what : String) (g : Grammar α) : Grammar α := within (.label what) g

/-- Adds an expected character to any failure of `g`. -/
def expecting {α : Type} (c : Char) (g : Grammar α) : Grammar α :=
  within (.expected (charExpectation c)) g

/-- Makes every failure of `g` committed. -/
def commit {α : Type} (g : Grammar α) : Grammar α :=
  tryCatch g fun f => throw { f with committed := true }

/-- Tries `g`; a soft failure gives `none` with the position unchanged. -/
def optional {α : Type} (g : Grammar α) : Grammar (Option α) :=
  tryCatch (some <$> g) fun f => if f.committed then throw f else pure none

/-- Tries `g`, then on a soft failure `h` from the same position; the failure of `h` stands. -/
def orElse {α : Type} (g h : Grammar α) : Grammar α :=
  tryCatch g fun f => if f.committed then throw f else h

/-- Runs `g` and returns to the position it started from, whatever the outcome. -/
def lookahead {α : Type} (g : Grammar α) : Grammar α := do
  let start ← get
  tryCatch (do let a ← g; set start; pure a) fun f => throw { f with pos := start }

/-- The bytes from `a` up to `b`. -/
def slice (a b : Nat) : Grammar ByteArray := do return (← read).extract a b

/-- The text of the bytes from `a` up to `b`. -/
def text (a b : Nat) : Grammar String := do
  return (String.fromUTF8? ((← read).extract a b)).getD ""

/-- Consumes one byte satisfying `p`, or fails softly. -/
def byteWhere (p : UInt8 → Bool) : Grammar UInt8 := do
  match ← peek with
  | some b => if p b then do advance 1; pure b else fail
  | none => fail

/-- Consumes one given byte, or fails softly. -/
def byte (c : UInt8) : Grammar Unit := do let _ ← byteWhere (· == c)

/-- Consumes one byte, or fails softly at the end. -/
def anyByte : Grammar UInt8 := byteWhere fun _ => true

/-- Consumes the given bytes, or fails softly without moving. -/
def literal (s : String) : Grammar Unit := do
  let bytes := s.toUTF8
  let p ← get
  if (← read).extract p (p + bytes.size) == bytes then advance bytes.size else fail

/-- Whether the given bytes come next. -/
def startsWith (s : String) : Grammar Bool := do
  let bytes := s.toUTF8
  let p ← get
  return (← read).extract p (p + bytes.size) == bytes

/-- Consumes the longest run, of at most `most` bytes, satisfying `p`, and returns its
length. -/
def spanUpTo (most : Nat) (p : UInt8 → Bool) : Grammar Nat := do
  let input ← read
  let start ← get
  let mut n := 0
  for _ in [0:min most (input.size - start)] do
    match input[start + n]? with
    | some b => if p b then n := n + 1 else break
    | none => break
  advance n
  return n

/-- Consumes the longest run of bytes satisfying `p`. -/
def span (p : UInt8 → Bool) : Grammar Nat := do spanUpTo (← size) p

/-- Consumes a run of at least `least` bytes satisfying `p`, or fails softly without moving. -/
def span1 (least : Nat) (p : UInt8 → Bool) : Grammar Nat := do
  let start ← get
  let n ← span p
  if n < least then do set start; failAt start else pure n

/-- Succeeds at the end of the text only. -/
def atEnd : Grammar Unit := do
  if (← get) < (← size) then fail else pure ()

end Grammar

/-! ## Byte classes -/

/-- Whether a byte is in the inclusive range from `lo` to `hi`. -/
def inRange (lo hi b : UInt8) : Bool := lo ≤ b && b ≤ hi

/-- Space and tab. -/
def isBlankByte (b : UInt8) : Bool := b == 0x20 || b == 0x09

/-- A byte of a character beyond ASCII. -/
def isWideByte (b : UInt8) : Bool := 0x80 ≤ b

/-- A byte that may stand in a comment. -/
def isCommentByte (b : UInt8) : Bool := b == 0x09 || inRange 0x20 0x7E b || isWideByte b

/-- A decimal digit. -/
def isDigitByte (b : UInt8) : Bool := inRange 0x30 0x39 b

/-- A hexadecimal digit. -/
def isHexByte (b : UInt8) : Bool :=
  isDigitByte b || inRange 0x41 0x46 b || inRange 0x61 0x66 b

/-- The value of a hexadecimal digit byte. -/
def hexValue (b : UInt8) : Nat :=
  if isDigitByte b then (b - 0x30).toNat
  else if inRange 0x41 0x46 b then (b - 0x41).toNat + 10
  else (b - 0x61).toNat + 10

/-- A byte of a bare key: a letter, digit, dash or underscore. -/
def isBareKeyByte (b : UInt8) : Bool :=
  inRange 0x41 0x5A b || inRange 0x61 0x7A b || isDigitByte b || b == 0x2D || b == 0x5F

/-! ## Layout -/

namespace Grammar

/-- Skips spaces and tabs. -/
def blanks : Grammar Unit := do let _ ← span isBlankByte

/-- A line break: a line feed, or a carriage return and a line feed. A lone carriage return
fails after it. -/
def newline : Grammar Unit := do
  match ← anyByte with
  | 0x0A => pure ()
  | 0x0D => byte 0x0A
  | _ => fail

/-- A comment: a hash and the comment bytes after it. -/
def comment : Grammar Unit := do
  byte 0x23
  let _ ← span isCommentByte

/-- The end of a line: a break or the end of the text. -/
def lineEnding : Grammar Unit := orElse newline atEnd

/-- What may follow a value or a header on its line: blanks, a comment, the line's end. -/
def lineTrailing : Grammar Unit := do
  blanks
  let _ ← optional comment
  lineEnding

/-- Blanks, comments and line breaks, as between the items of an array. -/
def blanksAndBreaks : Grammar Unit := do
  let input ← read
  for _ in [0:input.size + 1] do
    let start ← get
    blanks
    match ← peek with
    | some 0x23 => do comment; newline
    | some 0x0A => newline
    | some 0x0D => newline
    | _ => break
    if (← get) == start then break

end Grammar

end SwiftDevEnv.Toml
