import SwiftDevEnv.Toml.Grammar

/-!
# Strings of a settings file

A string is written in one of four ways. A basic string stands between double quotes and
may hold escapes: `\b`, `\t`, `\n`, `\f`, `\r`, `\"`, `\\`, and `\u` or `\U` with four or eight
hexadecimal digits naming a Unicode scalar value. A literal string stands between single
quotes and means exactly its bytes. Either kind may be tripled, and then spans lines: a line
break right after the opening quotes is dropped, one or two quote characters may stand
inside, and in the basic kind a backslash at the end of a line removes the break and the
blanks after it.

Control characters other than the tab may not appear raw in any string; an unterminated string
fails at the byte where it stopped, labelled with its kind.
-/

namespace SwiftDevEnv.Toml

namespace Grammar

/-- A byte that may stand raw in a basic string. -/
def isBasicByte (b : UInt8) : Bool :=
  isBlankByte b || b == 0x21 || inRange 0x23 0x5B b || inRange 0x5D 0x7E b || isWideByte b

/-- A byte that may stand raw in a literal string. -/
def isLiteralByte (b : UInt8) : Bool :=
  b == 0x09 || inRange 0x20 0x26 b || inRange 0x28 0x7E b || isWideByte b

/-- Exactly `n` hexadecimal digits naming a Unicode scalar value. -/
def hexEscape (n : Nat) : Grammar Char := do
  let start ← pos
  let count ← spanUpTo n isHexByte
  if count != n then failAt start
  let digits ← slice start (start + n)
  let code := digits.foldl (fun acc b => acc * 16 + hexValue b) 0
  if code.isValidChar then pure (Char.ofNat code)
  else refuseSoftly start "value is out of range"

/-- The character an escape stands for, after its backslash. -/
def escapeSequence : Grammar Char := do
  match ← anyByte with
  | 0x62 => pure '\x08'
  | 0x66 => pure '\x0c'
  | 0x6E => pure '\n'
  | 0x72 => pure '\r'
  | 0x74 => pure '\t'
  | 0x75 => labelled "unicode 4-digit hex code" (commit (hexEscape 4))
  | 0x55 => labelled "unicode 8-digit hex code" (commit (hexEscape 8))
  | 0x5C => pure '\\'
  | 0x22 => pure '"'
  | _ =>
    let expectations := ['b', 'f', 'n', 'r', 't', 'u', 'U', '\\', '"']
    let g : Grammar Char := labelled "escape sequence" (commit fail)
    expectations.foldl (fun g c => expecting c g) g

/-- A backslash escape. -/
def escaped : Grammar Char := do
  byte 0x5C
  escapeSequence

/-- A run of raw bytes or one escape of a basic string. -/
def basicPiece : Grammar String :=
  orElse (do let a ← pos; let _ ← span1 1 isBasicByte; text a (← pos))
    (do return (← escaped).toString)

/-- A string between double quotes. -/
def basicString : Grammar String := do
  byte 0x22
  let mut acc := ""
  for _ in [0:(← size) + 1] do
    match ← optional basicPiece with
    | some s => acc := acc ++ s
    | none => break
  labelled "basic string" (commit (byte 0x22))
  return acc

/-- A string between single quotes. -/
def literalString : Grammar String :=
  labelled "literal string" do
    byte 0x27
    let a ← pos
    let _ ← commit (span isLiteralByte)
    let b ← pos
    commit (byte 0x27)
    text a b

/-- One or two quote bytes `q`, when `follow` can be read after them. -/
def quotes (q : UInt8) (follow : Grammar Unit) : Grammar String :=
  let one := (Char.ofNat q.toNat).toString
  orElse (do byte q; byte q; lookahead follow; pure (one ++ one))
    (do byte q; lookahead follow; pure one)

/-- A byte other than `q`. -/
def notByte (q : UInt8) : Grammar Unit := do let _ ← byteWhere (· != q)

/-- A backslash at the end of a line, with the blanks and breaks after it. -/
def escapedBreak : Grammar Unit := do
  let step : Grammar Unit := do
    byte 0x5C
    blanks
    newline
    for _ in [0:(← size) + 1] do
      match ← optional (orElse newline (do let _ ← span1 1 isBlankByte)) with
      | some _ => pure ()
      | none => break
  step
  for _ in [0:(← size) + 1] do
    match ← optional step with
    | some _ => pure ()
    | none => break

/-- A run of raw bytes, an escaped break, an escape or a line break of a tripled basic
string. A line break reads as a line feed, whether it was written with a carriage return or
not. -/
def multilineBasicPiece : Grammar String :=
  orElse (do let a ← pos; let _ ← span1 1 isBasicByte; text a (← pos)) <|
  orElse (do escapedBreak; pure "") <|
  orElse (do return (← escaped).toString)
    (do newline; pure "\n")

/-- Pieces of a tripled basic string while they last. -/
def multilineBasicPieces : Grammar String := do
  let mut acc := ""
  for _ in [0:(← size) + 1] do
    match ← optional multilineBasicPiece with
    | some s => acc := acc ++ s
    | none => break
  return acc

/-- The body of a tripled basic string. -/
def multilineBasicBody : Grammar String := do
  let mut acc ← multilineBasicPieces
  for _ in [0:(← size) + 1] do
    match ← optional (quotes 0x22 (notByte 0x22)) with
    | none => break
    | some q =>
      match ← optional multilineBasicPiece with
      | some s => acc := acc ++ q ++ s ++ (← multilineBasicPieces)
      | none => break
  match ← optional (quotes 0x22 (literal "\"\"\"")) with
  | some q => acc := acc ++ q
  | none => pure ()
  return acc

/-- A tripled basic string. -/
def multilineBasicString : Grammar String :=
  labelled "multiline basic string" do
    literal "\"\"\""
    let _ ← optional newline
    let body ← commit multilineBasicBody
    commit (literal "\"\"\"")
    return body

/-- A byte or a line break of a tripled literal string. -/
def multilineLiteralPiece : Grammar Unit :=
  orElse (do let _ ← byteWhere isLiteralByte) newline

/-- Pieces of a tripled literal string while they last; whether there was one. -/
def multilineLiteralPieces : Grammar Bool := do
  let mut any := false
  for _ in [0:(← size) + 1] do
    match ← optional multilineLiteralPiece with
    | some _ => any := true
    | none => break
  return any

/-- The body of a tripled literal string, as written. -/
def multilineLiteralBody : Grammar Unit := do
  let _ ← multilineLiteralPieces
  for _ in [0:(← size) + 1] do
    let more ← optional do
      let _ ← quotes 0x27 (notByte 0x27)
      if !(← multilineLiteralPieces) then fail
    if more.isNone then break
  let _ ← optional (quotes 0x27 (literal "'''"))

/-- Replaces each carriage return and line feed pair by a line feed. -/
def normalizeBreaks (s : String) : String := "\n".intercalate (s.splitOn "\r\n")

/-- A tripled literal string. -/
def multilineLiteralString : Grammar String :=
  labelled "multiline literal string" do
    literal "'''"
    let _ ← optional newline
    let a ← pos
    commit multilineLiteralBody
    let b ← pos
    commit (literal "'''")
    return normalizeBreaks (← text a b)

/-- A string in any of its four forms. -/
def string : Grammar String :=
  orElse multilineBasicString <| orElse basicString <| orElse multilineLiteralString literalString

end Grammar

end SwiftDevEnv.Toml
