import SwiftDevEnv.Yaml.Token
import SwiftDevEnv.Yaml.Input

/-!
# The YAML scanner

The scanner turns characters into tokens. Most tokens are found by their first character, but
two are only known later: a mapping key written without `?` (a simple key) is recognised when
the `:` after it is found, and a block collection starts where its first key or entry was.
The scanner therefore keeps a queue of tokens not yet handed out, remembers where a simple key
could have started on each flow level, and inserts the `KEY` and `BLOCK-MAPPING-START` tokens
into the queue when the `:` shows up. Tokens are handed out only once no remembered simple key
could still be inserted in front of them.

Block structure is tracked by a stack of indentation columns: a deeper column opens a block
collection and a shallower one closes collections with `BLOCK-END` tokens.

Every loop is bounded by the number of characters, since each pass either consumes a
character or ends the loop.
-/

namespace SwiftDevEnv.Yaml

/-- A place where a simple key could start. A required key is one at the indentation column of
a block mapping, which must be followed by `:`. -/
structure SimpleKey where
  possible : Bool
  required : Bool
  tokenNumber : Nat
  mark : Mark
  deriving Inhabited

/-- The key slot of a fresh flow level: no key is possible there. -/
def SimpleKey.vacant : SimpleKey := ⟨false, false, 0, Mark.origin⟩

/-- The scanner state. `indent` is the current block indentation, `-1` outside any block
collection; the simple key stack has one slot per flow level, the innermost first. -/
structure Scanner where
  input : Input
  mark : Mark
  queue : List Token
  tokensParsed : Nat
  tokenAvailable : Bool
  streamStartProduced : Bool
  streamEndProduced : Bool
  indent : Int
  indents : List Int
  simpleKeyAllowed : Bool
  simpleKeys : List SimpleKey
  flowLevel : Nat
  deriving Inhabited

/-- A scanner about to read the given input. -/
def Scanner.start (input : Input) : Scanner :=
  { input, mark := Mark.origin, queue := [], tokensParsed := 0, tokenAvailable := false,
    streamStartProduced := false, streamEndProduced := false, indent := -1, indents := [],
    simpleKeyAllowed := false, simpleKeys := [], flowLevel := 0 }

/-- Scanning steps: they change the scanner and may fail with a stream error. -/
abbrev ScanM := StateT Scanner (Except StreamError)

/-! ### Character classes -/

/-- Line breaks: carriage return, line feed, next line, line and paragraph separators. -/
def isBreak (c : Char) : Bool :=
  c == '\r' || c == '\n' || c == '\x85' || c == '\u2028' || c == '\u2029'

/-- The end of the stream, read as a NUL character. -/
def isEnd (c : Char) : Bool := c == '\x00'

/-- A line break or the end of the stream. -/
def isBreakOrEnd (c : Char) : Bool := isBreak c || isEnd c

/-- A space or a tab. -/
def isBlank (c : Char) : Bool := c == ' ' || c == '\t'

/-- A space, a tab, a line break or the end of the stream. -/
def isBlankOrEnd (c : Char) : Bool := isBlank c || isBreakOrEnd c

/-- The characters of anchors, directive names and tag handles: ASCII letters and digits,
underscore and hyphen. -/
def isWordChar (c : Char) : Bool :=
  ('0' ≤ c && c ≤ '9') || ('a' ≤ c && c ≤ 'z') || ('A' ≤ c && c ≤ 'Z') || c == '_' || c == '-'

/-- An ASCII hexadecimal digit. -/
def isHexChar (c : Char) : Bool :=
  ('0' ≤ c && c ≤ '9') || ('a' ≤ c && c ≤ 'f') || ('A' ≤ c && c ≤ 'F')

/-- The value of a hexadecimal digit. -/
def hexCharValue (c : Char) : Nat :=
  if c ≤ '9' then c.toNat - 48 else if c ≤ 'F' then c.toNat - 55 else c.toNat - 87

/-- The characters that cannot start a plain scalar (with the blanks). -/
def isIndicator (c : Char) : Bool :=
  match c with
  | '-' | '?' | ':' | ',' | '[' | ']' | '\x7b' | '\x7d' | '#' | '&' | '*' | '!' | '|' | '>'
  | '\'' | '"' | '%' | '@' | '\x60' => true
  | _ => false

/-- The characters a tag may hold besides word characters. -/
def isTagChar (c : Char) : Bool :=
  match c with
  | ';' | '/' | '?' | ':' | '@' | '&' | '=' | '+' | '$' | '.' | '%' | '!' | '~' | '*' | '\''
  | '(' | ')' => true
  | _ => false

/-- The flow indicators that may not follow a `:` inside a flow plain scalar. -/
def isFlowIndicatorAfterColon (c : Char) : Bool :=
  match c with
  | ',' | '?' | '[' | ']' | '\x7b' | '\x7d' => true
  | _ => false

/-- The flow indicators that end a plain scalar inside a flow collection. -/
def endsFlowPlain (c : Char) : Bool :=
  match c with
  | ',' | '[' | ']' | '\x7b' | '\x7d' => true
  | _ => false

namespace Scanner

/-! ### Reading characters -/

/-- The character `k` places ahead, or NUL past the end. -/
def peek (k : Nat) : ScanM Char := do
  let s ← get
  pure (s.input.chars.getD (s.mark.index + k) '\x00')

/-- The current mark. -/
def here : ScanM Mark := do pure (← get).mark

/-- A bound on the number of passes of any loop over the input. -/
def bound : ScanM Nat := do pure ((← get).input.chars.size + 8)

/-- Makes sure `n` characters are decoded, failing where the input has a forbidden
character. -/
def cache (n : Nat) : ScanM Unit := do
  let s ← get
  match s.input.failure with
  | some (limit, offset) =>
    if s.mark.index + n > limit then
      throw ⟨"control characters are not allowed", Mark.origin, offset, none⟩
  | none => pure ()

/-- Moves past one character that is not a line break. -/
def skip : ScanM Unit :=
  modify fun s => { s with mark := ⟨s.mark.index + 1, s.mark.line, s.mark.column + 1⟩ }

/-- Moves past a line break; a carriage return and line feed count as one. -/
def skipLine : ScanM Unit := do
  let c0 ← peek 0
  let c1 ← peek 1
  if c0 == '\r' && c1 == '\n' then
    modify fun s => { s with mark := ⟨s.mark.index + 2, s.mark.line + 1, 0⟩ }
  else if isBreak c0 then
    modify fun s => { s with mark := ⟨s.mark.index + 1, s.mark.line + 1, 0⟩ }

/-- Takes the current character. -/
def read : ScanM Char := do
  let c ← peek 0
  skip
  pure c

/-- Takes a line break, giving a line feed for a carriage return, a line feed, both, or a next
line, and keeping a line or paragraph separator as it is. -/
def readLine : ScanM Char := do
  let c0 ← peek 0
  let c1 ← peek 1
  if c0 == '\r' && c1 == '\n' then
    modify fun s => { s with mark := ⟨s.mark.index + 2, s.mark.line + 1, 0⟩ }
    pure '\n'
  else
    modify fun s => { s with mark := ⟨s.mark.index + 1, s.mark.line + 1, 0⟩ }
    pure (if c0 == '\u2028' || c0 == '\u2029' then c0 else '\n')

/-- Fails at the current mark, naming what was being scanned and where it began. -/
def fail (context : String) (contextMark : Mark) (problem : String) : ScanM α := do
  throw (StreamError.within context contextMark problem (← get).mark)

/-- Fails at the current mark. -/
def failHere (problem : String) : ScanM α := do
  throw (StreamError.located problem (← get).mark)

/-! ### The token queue -/

/-- Inserts an element at a position of a list, or at its end when the list is shorter. -/
def insertAt : Nat → Token → List Token → List Token
  | 0, t, l => t :: l
  | _ + 1, t, [] => [t]
  | n + 1, t, x :: l => x :: insertAt n t l

/-- Appends a token to the queue. -/
def enqueue (t : Token) : ScanM Unit := modify fun s => { s with queue := s.queue ++ [t] }

/-- Inserts a token with the given overall number into the queue. -/
def insertNumbered (number : Nat) (t : Token) : ScanM Unit :=
  modify fun s => { s with queue := insertAt (number - s.tokensParsed) t s.queue }

/-! ### Simple keys and indentation -/

/-- Replaces the innermost simple key slot. -/
def setTopKey (k : SimpleKey) : ScanM Unit :=
  modify fun s => { s with simpleKeys := k :: s.simpleKeys.tail }

/-- Forgets the simple key of the current flow level; a required one is an error. -/
def removeSimpleKey : ScanM Unit := do
  let s ← get
  match s.simpleKeys with
  | [] => pure ()
  | k :: _ =>
    if k.possible && k.required then
      fail "while scanning a simple key" k.mark "could not find expected ':'"
    setTopKey { k with possible := false }

/-- Remembers that a simple key may start here, if one is allowed. -/
def saveSimpleKey : ScanM Unit := do
  let s ← get
  let required := s.flowLevel == 0 && s.indent == (s.mark.column : Int)
  if s.simpleKeyAllowed then
    let k : SimpleKey := ⟨true, required, s.tokensParsed + s.queue.length, s.mark⟩
    removeSimpleKey
    setTopKey k

/-- Forgets simple keys that can no longer be keys: a key must fit on one line and in 1024
bytes of text. A required key that goes stale is an error. -/
def staleSimpleKeys : ScanM Unit := do
  let s ← get
  let mut kept : List SimpleKey := []
  for k in s.simpleKeys.reverse do
    if k.possible && (k.mark.line < s.mark.line ||
        s.input.byteOffset k.mark.index + 1024 < s.input.byteOffset s.mark.index) then
      if k.required then
        fail "while scanning a simple key" k.mark "could not find expected ':'"
      kept := { k with possible := false } :: kept
    else
      kept := k :: kept
  set { s with simpleKeys := kept }

/-- Enters a flow collection, with a fresh simple key slot. -/
def increaseFlowLevel : ScanM Unit :=
  modify fun s => { s with simpleKeys := SimpleKey.vacant :: s.simpleKeys,
                           flowLevel := s.flowLevel + 1 }

/-- Leaves a flow collection. -/
def decreaseFlowLevel : ScanM Unit :=
  modify fun s =>
    if s.flowLevel != 0 then { s with flowLevel := s.flowLevel - 1, simpleKeys := s.simpleKeys.tail }
    else s

/-- In block context, opens a block collection when `column` is deeper than the current
indentation: the start token goes at the end of the queue, or at position `number`. -/
def rollIndent (column : Int) (number : Option Nat) (kind : TokenKind) (m : Mark) :
    ScanM Unit := do
  let s ← get
  if s.flowLevel == 0 && s.indent < column then
    set { s with indents := s.indent :: s.indents, indent := column }
    match number with
    | none => enqueue ⟨kind, m, m⟩
    | some n => insertNumbered n ⟨kind, m, m⟩

/-- In block context, closes every block collection deeper than `column`. -/
def unrollIndent (column : Int) : ScanM Unit := do
  if (← get).flowLevel != 0 then return
  let n := (← get).indents.length + 1
  for _ in [0:n] do
    let s ← get
    if s.indent ≤ column then break
    enqueue ⟨.blockEnd, s.mark, s.mark⟩
    match s.indents with
    | i :: rest => modify fun s => { s with indent := i, indents := rest }
    | [] => modify fun s => { s with indent := -1 }

/-! ### Between tokens -/

/-- Skips blanks, comments and line breaks up to the next token. Tabs are skipped only in flow
context or where no simple key may start; a line break in block context allows one. A byte
order mark at the start of a line is skipped too. -/
def scanToNextToken : ScanM Unit := do
  let n ← bound
  for _ in [0:n] do
    cache 1
    if (← here).column == 0 && (← peek 0) == '\uFEFF' then skip
    cache 1
    for _ in [0:n] do
      let c ← peek 0
      let s ← get
      if c == ' ' || ((s.flowLevel != 0 || !s.simpleKeyAllowed) && c == '\t') then
        skip
        cache 1
      else break
    if (← peek 0) == '#' then
      for _ in [0:n] do
        if isBreakOrEnd (← peek 0) then break
        skip
        cache 1
    if isBreak (← peek 0) then
      cache 2
      skipLine
      if (← get).flowLevel == 0 then modify fun s => { s with simpleKeyAllowed := true }
    else break

/-! ### Directives -/

/-- Scans the number of a `%YAML` directive: one to nine digits. -/
def scanVersionNumber (start : Mark) : ScanM Nat := do
  cache 1
  let mut value := 0
  let mut length := 0
  for _ in [0:11] do
    let c ← peek 0
    if !c.isDigit then break
    length := length + 1
    if length > 9 then
      fail "while scanning a %YAML directive" start "found extremely long version number"
    value := value * 10 + (c.toNat - 48)
    skip
    cache 1
  if length == 0 then
    fail "while scanning a %YAML directive" start "did not find expected version number"
  pure value

/-- Skips spaces and tabs. -/
def skipBlanks : ScanM Unit := do
  let n ← bound
  cache 1
  for _ in [0:n] do
    if !isBlank (← peek 0) then break
    skip
    cache 1

/-- Scans a tag handle: `!`, `!!`, or `!` word characters `!`. A directive needs the closing
`!` unless the handle is a lone `!`. -/
def scanTagHandle (directive : Bool) (start : Mark) : ScanM (List UInt8) := do
  cache 1
  if (← peek 0) != '!' then
    fail (if directive then "while scanning a tag directive" else "while scanning a tag") start
      "did not find expected '!'"
  let mut handle : Array UInt8 := #[33]
  skip
  cache 1
  let n ← bound
  for _ in [0:n] do
    let c ← peek 0
    if !isWordChar c then break
    handle := handle.push c.toNat.toUInt8
    skip
    cache 1
  if (← peek 0) == '!' then
    handle := handle.push 33
    skip
  else if directive && handle != #[33] then
    fail "while parsing a tag directive" start "did not find expected '!'"
  pure handle.toList

/-- Scans an escaped octet run `%hh…` making up one UTF-8 sequence. -/
def scanUriEscapes (directive : Bool) (start : Mark) : ScanM (List UInt8) := do
  let context := if directive then "while parsing a %TAG directive" else "while parsing a tag"
  let mut width := 0
  let mut out : Array UInt8 := #[]
  for _ in [0:4] do
    cache 3
    let c0 ← peek 0
    let c1 ← peek 1
    let c2 ← peek 2
    if !(c0 == '%' && isHexChar c1 && isHexChar c2) then
      fail context start "did not find URI escaped octet"
    let octet := hexCharValue c1 * 16 + hexCharValue c2
    if width == 0 then
      width :=
        if octet / 128 == 0 then 1
        else if octet / 32 == 6 then 2
        else if octet / 16 == 14 then 3
        else if octet / 8 == 30 then 4
        else 0
      if width == 0 then fail context start "found an incorrect leading UTF-8 octet"
    else if octet / 64 != 2 then
      fail context start "found an incorrect trailing UTF-8 octet"
    out := out.push octet.toUInt8
    skip
    skip
    skip
    width := width - 1
    if width == 0 then break
  pure out.toList

/-- Scans the URI part of a tag. `head` is a handle scanned before that turned out to be part
of the URI: all of it but its leading `!` is kept. Commas and square brackets belong to the
URI only in a verbatim tag. -/
def scanTagUri (verbatim directive : Bool) (head : List UInt8) (start : Mark) :
    ScanM (List UInt8) := do
  let mut out : Array UInt8 := (head.drop 1).toArray
  let mut length := head.length
  cache 1
  let n ← bound
  for _ in [0:n] do
    let c ← peek 0
    if !(isWordChar c || isTagChar c || (verbatim && (c == ',' || c == '[' || c == ']'))) then
      break
    if c == '%' then
      out := out ++ (← scanUriEscapes directive start).toArray
    else
      out := out.push c.toNat.toUInt8
      skip
    length := length + 1
    cache 1
  if length == 0 then
    fail (if directive then "while parsing a %TAG directive" else "while parsing a tag") start
      "did not find expected tag URI"
  pure out.toList

/-- Scans the name of a directive. -/
def scanDirectiveName (start : Mark) : ScanM String := do
  cache 1
  let mut name := ""
  let n ← bound
  for _ in [0:n] do
    let c ← peek 0
    if !isWordChar c then break
    name := name.push c
    skip
    cache 1
  if name.isEmpty then
    fail "while scanning a directive" start "could not find expected directive name"
  if !isBlankOrEnd (← peek 0) then
    fail "while scanning a directive" start "found unexpected non-alphabetical character"
  pure name

/-- Scans a `%YAML` or `%TAG` directive and the rest of its line. -/
def scanDirective : ScanM Token := do
  let start ← here
  skip
  let name ← scanDirectiveName start
  let token ←
    if name == "YAML" then do
      skipBlanks
      let major ← scanVersionNumber start
      if (← peek 0) != '.' then
        fail "while scanning a %YAML directive" start "did not find expected digit or '.' character"
      skip
      let minor ← scanVersionNumber start
      pure (⟨.versionDirective major minor, start, ← here⟩ : Token)
    else if name == "TAG" then do
      skipBlanks
      let handle ← scanTagHandle true start
      cache 1
      if !isBlank (← peek 0) then
        fail "while scanning a %TAG directive" start "did not find expected whitespace"
      skipBlanks
      let pfx ← scanTagUri true true [] start
      cache 1
      if !isBlankOrEnd (← peek 0) then
        fail "while scanning a %TAG directive" start "did not find expected whitespace or line break"
      pure (⟨.tagDirective handle pfx, start, ← here⟩ : Token)
    else
      fail "while scanning a directive" start "found unknown directive name"
  skipBlanks
  if (← peek 0) == '#' then
    let n ← bound
    for _ in [0:n] do
      if isBreakOrEnd (← peek 0) then break
      skip
      cache 1
  if !isBreakOrEnd (← peek 0) then
    fail "while scanning a directive" start "did not find expected comment or line break"
  if isBreak (← peek 0) then
    cache 2
    skipLine
  pure token

/-! ### Anchors and tags -/

/-- Scans an anchor `&name` or an alias `*name`. -/
def scanAnchor (isAlias : Bool) : ScanM Token := do
  let start ← here
  skip
  cache 1
  let mut name := ""
  let n ← bound
  for _ in [0:n] do
    let c ← peek 0
    if !isWordChar c then break
    name := name.push c
    skip
    cache 1
  let stop ← here
  let c ← peek 0
  if name.isEmpty || !(isBlankOrEnd c || c == '?' || c == ':' || c == ',' || c == ']' ||
      c == '\x7d' || c == '%' || c == '@' || c == '\x60') then
    fail (if isAlias then "while scanning an alias" else "while scanning an anchor") start
      "did not find expected alphabetic or numeric character"
  pure ⟨if isAlias then .alias name else .anchor name, start, stop⟩

/-- Scans a tag: verbatim `!<uri>`, `!handle!suffix`, `!suffix`, or the lone `!`, which has an
empty handle and suffix `!`. -/
def scanTag : ScanM Token := do
  let start ← here
  cache 2
  let (handle, suffix) ←
    if (← peek 1) == '<' then do
      skip
      skip
      let suffix ← scanTagUri true false [] start
      if (← peek 0) != '>' then
        fail "while scanning a tag" start "did not find the expected '>'"
      skip
      pure ([], suffix)
    else do
      let h ← scanTagHandle false start
      if h.head? == some 33 && h.length > 1 && h.getLast? == some 33 then
        pure (h, ← scanTagUri false false [] start)
      else
        let suffix ← scanTagUri false false h start
        if suffix.isEmpty then pure ([], [33]) else pure ([33], suffix)
  cache 1
  let c ← peek 0
  if !isBlankOrEnd c && ((← get).flowLevel == 0 || c != ',') then
    fail "while scanning a tag" start "did not find expected whitespace or line break"
  pure ⟨.tag handle suffix, start, ← here⟩

/-! ### Scalars -/

/-- Whether the next four characters are a document marker `---` or `...` at the start of a
line, followed by a blank or the end. -/
def atDocumentMarker : ScanM Bool := do
  let c0 ← peek 0
  let c1 ← peek 1
  let c2 ← peek 2
  let c3 ← peek 3
  pure ((← here).column == 0 &&
    ((c0 == '-' && c1 == '-' && c2 == '-') || (c0 == '.' && c1 == '.' && c2 == '.')) &&
    isBlankOrEnd c3)

/-- Folds the line breaks between two parts of a flow or plain scalar: a single line feed
becomes a space, more breaks are kept without the first, and other breaks are kept. -/
def foldBreaks (leadingBreak trailingBreaks : String) : String :=
  if leadingBreak.front == '\n' then
    if trailingBreaks.isEmpty then " " else trailingBreaks
  else leadingBreak ++ trailingBreaks

/-- The character a double-quoted escape `\c` stands for, for the escapes of one character. -/
def simpleEscape (c : Char) : Option String :=
  match c with
  | '0' => some "\x00"
  | 'a' => some "\x07"
  | 'b' => some "\x08"
  | 't' | '\t' => some "\t"
  | 'n' => some "\n"
  | 'v' => some "\x0b"
  | 'f' => some "\x0c"
  | 'r' => some "\r"
  | 'e' => some "\x1b"
  | ' ' => some " "
  | '"' => some "\""
  | '/' => some "/"
  | '\'' => some "'"
  | '\\' => some "\\"
  | 'N' => some "\x85"
  | '_' => some "\xa0"
  | 'L' => some "\u2028"
  | 'P' => some "\u2029"
  | _ => none

/-- Scans a single- or double-quoted scalar. -/
def scanFlowScalar (single : Bool) : ScanM Token := do
  let start ← here
  skip
  let quote := if single then '\'' else '"'
  let mut text := ""
  let mut leadingBreak := ""
  let mut trailingBreaks := ""
  let mut whitespaces := ""
  let n ← bound
  for _ in [0:n] do
    cache 4
    if ← atDocumentMarker then
      fail "while scanning a quoted scalar" start "found unexpected document indicator"
    if isEnd (← peek 0) then
      fail "while scanning a quoted scalar" start "found unexpected end of stream"
    cache 2
    let mut leadingBlanks := false
    for _ in [0:n] do
      let c ← peek 0
      if isBlankOrEnd c then break
      let next ← peek 1
      if single && c == '\'' && next == '\'' then
        text := text.push '\''
        skip
        skip
      else if c == quote then break
      else if !single && c == '\\' && isBreak next then
        cache 3
        skip
        skipLine
        leadingBlanks := true
        break
      else if !single && c == '\\' then
        let width : Nat :=
          match next with
          | 'x' => 2
          | 'u' => 4
          | 'U' => 8
          | _ => 0
        if width == 0 then
          match simpleEscape next with
          | some e => text := text ++ e
          | none => fail "while parsing a quoted scalar" start "found unknown escape character"
        skip
        skip
        if width != 0 then
          cache width
          let mut code := 0
          for k in [0:width] do
            let h ← peek k
            if !isHexChar h then
              fail "while parsing a quoted scalar" start "did not find expected hexdecimal number"
            code := code * 16 + hexCharValue h
          if (0xD800 ≤ code && code ≤ 0xDFFF) || code > 0x10FFFF then
            fail "while parsing a quoted scalar" start "found invalid Unicode character escape code"
          text := text.push (Char.ofNat code)
          for _ in [0:width] do skip
      else
        text := text.push (← read)
      cache 2
    cache 1
    if (← peek 0) == quote then break
    cache 1
    for _ in [0:n] do
      let c ← peek 0
      if !(isBlank c || isBreak c) then break
      if isBlank c then
        if !leadingBlanks then whitespaces := whitespaces.push (← read) else skip
      else
        cache 2
        if !leadingBlanks then
          whitespaces := ""
          leadingBreak := leadingBreak.push (← readLine)
          leadingBlanks := true
        else
          trailingBreaks := trailingBreaks.push (← readLine)
      cache 1
    if leadingBlanks then
      text := text ++ foldBreaks leadingBreak trailingBreaks
      leadingBreak := ""
      trailingBreaks := ""
    else
      text := text ++ whitespaces
      whitespaces := ""
  skip
  pure ⟨.scalar text (if single then .singleQuoted else .doubleQuoted), start, ← here⟩

/-- Scans a plain scalar. It ends at `: ` , at a comment, at a document marker, at a line
indented no deeper than the enclosing block, and inside flow collections at a flow
indicator. Line breaks inside it fold as in quoted scalars. -/
def scanPlainScalar : ScanM Token := do
  let s0 ← get
  let indent : Int := s0.indent + 1
  let start := s0.mark
  let mut stop := s0.mark
  let mut text := ""
  let mut leadingBreak := ""
  let mut trailingBreaks := ""
  let mut whitespaces := ""
  let mut leadingBlanks := false
  let n ← bound
  for _ in [0:n] do
    cache 4
    if ← atDocumentMarker then break
    if (← peek 0) == '#' then break
    for _ in [0:n] do
      let c ← peek 0
      if isBlankOrEnd c then break
      let next ← peek 1
      let flow := (← get).flowLevel != 0
      if flow && c == ':' && isFlowIndicatorAfterColon next then
        fail "while scanning a plain scalar" start "found unexpected ':'"
      if (c == ':' && isBlankOrEnd next) || (flow && endsFlowPlain c) then break
      if leadingBlanks || !whitespaces.isEmpty then
        if leadingBlanks then
          text := text ++ foldBreaks leadingBreak trailingBreaks
          leadingBreak := ""
          trailingBreaks := ""
          leadingBlanks := false
        else
          text := text ++ whitespaces
          whitespaces := ""
      text := text.push (← read)
      stop ← here
      cache 2
    let c ← peek 0
    if !(isBlank c || isBreak c) then break
    cache 1
    for _ in [0:n] do
      let c ← peek 0
      if !(isBlank c || isBreak c) then break
      if isBlank c then
        if leadingBlanks && ((← here).column : Int) < indent && c == '\t' then
          fail "while scanning a plain scalar" start "found a tab character that violates indentation"
        if !leadingBlanks then whitespaces := whitespaces.push (← read) else skip
      else
        cache 2
        if !leadingBlanks then
          whitespaces := ""
          leadingBreak := leadingBreak.push (← readLine)
          leadingBlanks := true
        else
          trailingBreaks := trailingBreaks.push (← readLine)
      cache 1
    if (← get).flowLevel == 0 && ((← here).column : Int) < indent then break
  if leadingBlanks then modify fun s => { s with simpleKeyAllowed := true }
  pure ⟨.scalar text .plain, start, stop⟩

/-- Skips the indentation and empty lines before a line of a block scalar, collecting the
line breaks. When the indentation is not known yet it becomes the deepest column seen, but at
least one more than the enclosing block and at least one. -/
def scanBlockBreaks (indent : Nat) (breaks : String) (start : Mark) :
    ScanM (Nat × String × Mark) := do
  let mut indent := indent
  let mut breaks := breaks
  let mut stop ← here
  let mut maxIndent := 0
  let n ← bound
  for _ in [0:n] do
    cache 1
    for _ in [0:n] do
      if (indent == 0 || (← here).column < indent) && (← peek 0) == ' ' then
        skip
        cache 1
      else break
    if (← here).column > maxIndent then maxIndent := (← here).column
    if (indent == 0 || (← here).column < indent) && (← peek 0) == '\t' then
      fail "while scanning a block scalar" start
        "found a tab character where an indentation space is expected"
    if !isBreak (← peek 0) then break
    cache 2
    breaks := breaks.push (← readLine)
    stop ← here
  if indent == 0 then
    let outer := (← get).indent + 1
    indent := max (max maxIndent outer.toNat) 1
  pure (indent, breaks, stop)

/-- Scans a literal (`|`) or folded (`>`) block scalar with its chomping and indentation
indicators. -/
def scanBlockScalar (literal : Bool) : ScanM Token := do
  let start ← here
  skip
  cache 1
  let mut chomping : Int := 0
  let mut increment := 0
  let c ← peek 0
  if c == '+' || c == '-' then
    chomping := if c == '+' then 1 else -1
    skip
    cache 1
    let d ← peek 0
    if d.isDigit then
      if d == '0' then
        fail "while scanning a block scalar" start "found an indentation indicator equal to 0"
      increment := d.toNat - 48
      skip
  else if c.isDigit then
    if c == '0' then
      fail "while scanning a block scalar" start "found an indentation indicator equal to 0"
    increment := c.toNat - 48
    skip
    cache 1
    let d ← peek 0
    if d == '+' || d == '-' then
      chomping := if d == '+' then 1 else -1
      skip
  skipBlanks
  let n ← bound
  if (← peek 0) == '#' then
    for _ in [0:n] do
      if isBreakOrEnd (← peek 0) then break
      skip
      cache 1
  if !isBreakOrEnd (← peek 0) then
    fail "while scanning a block scalar" start "did not find expected comment or line break"
  if isBreak (← peek 0) then
    cache 2
    skipLine
  let outer := (← get).indent
  let mut indent : Nat := 0
  if increment != 0 then
    indent := if outer ≥ 0 then outer.toNat + increment else increment
  let mut text := ""
  let mut leadingBreak := ""
  let mut leadingBlank := false
  let (i, tb, st) ← scanBlockBreaks indent "" start
  indent := i
  let mut trailingBreaks := tb
  let mut stop := st
  cache 1
  for _ in [0:n] do
    if !((← here).column == indent && !isEnd (← peek 0)) then break
    let trailingBlank := isBlank (← peek 0)
    if !literal && leadingBreak.front == '\n' && !leadingBlank && !trailingBlank then
      if trailingBreaks.isEmpty then text := text.push ' '
      leadingBreak := ""
    else
      text := text ++ leadingBreak
      leadingBreak := ""
    text := text ++ trailingBreaks
    trailingBreaks := ""
    leadingBlank := isBlank (← peek 0)
    for _ in [0:n] do
      if isBreakOrEnd (← peek 0) then break
      text := text.push (← read)
      cache 1
    cache 2
    leadingBreak := leadingBreak.push (← readLine)
    let (i, tb, st) ← scanBlockBreaks indent trailingBreaks start
    indent := i
    trailingBreaks := tb
    stop := st
  if chomping != -1 then text := text ++ leadingBreak
  if chomping == 1 then text := text ++ trailingBreaks
  pure ⟨.scalar text (if literal then .literal else .folded), start, stop⟩

/-! ### Fetching tokens -/

/-- Takes an indicator character and queues its token. -/
def takeIndicator (kind : TokenKind) (width : Nat) : ScanM Unit := do
  let start ← here
  for _ in [0:width] do skip
  enqueue ⟨kind, start, ← here⟩

/-- Queues the stream start. -/
def fetchStreamStart : ScanM Unit := do
  modify fun s => { s with indent := -1, simpleKeys := SimpleKey.vacant :: s.simpleKeys,
                           simpleKeyAllowed := true, streamStartProduced := true }
  let m ← here
  enqueue ⟨.streamStart, m, m⟩

/-- Queues the stream end, first moving to a fresh line and closing every block. -/
def fetchStreamEnd : ScanM Unit := do
  let s ← get
  if s.mark.column != 0 then set { s with mark := ⟨s.mark.index, s.mark.line + 1, 0⟩ }
  unrollIndent (-1)
  removeSimpleKey
  modify fun s => { s with simpleKeyAllowed := false }
  let m ← here
  enqueue ⟨.streamEnd, m, m⟩

/-- Queues a directive. -/
def fetchDirective : ScanM Unit := do
  unrollIndent (-1)
  removeSimpleKey
  modify fun s => { s with simpleKeyAllowed := false }
  enqueue (← scanDirective)

/-- Queues a document start `---` or end `...`. -/
def fetchDocumentIndicator (kind : TokenKind) : ScanM Unit := do
  unrollIndent (-1)
  removeSimpleKey
  modify fun s => { s with simpleKeyAllowed := false }
  takeIndicator kind 3

/-- Queues `[` or `{`, which may start a simple key. -/
def fetchFlowCollectionStart (kind : TokenKind) : ScanM Unit := do
  saveSimpleKey
  increaseFlowLevel
  modify fun s => { s with simpleKeyAllowed := true }
  takeIndicator kind 1

/-- Queues `]` or `}`. -/
def fetchFlowCollectionEnd (kind : TokenKind) : ScanM Unit := do
  removeSimpleKey
  decreaseFlowLevel
  modify fun s => { s with simpleKeyAllowed := false }
  takeIndicator kind 1

/-- Queues `,`. -/
def fetchFlowEntry : ScanM Unit := do
  removeSimpleKey
  modify fun s => { s with simpleKeyAllowed := true }
  takeIndicator .flowEntry 1

/-- Queues `-`, opening a block sequence in block context when needed. Inside a flow collection
the token is queued anyway and the parser reports it. -/
def fetchBlockEntry : ScanM Unit := do
  let s ← get
  if s.flowLevel == 0 then
    if !s.simpleKeyAllowed then
      failHere "block sequence entries are not allowed in this context"
    rollIndent s.mark.column none .blockSequenceStart s.mark
  removeSimpleKey
  modify fun s => { s with simpleKeyAllowed := true }
  takeIndicator .blockEntry 1

/-- Queues `?`, opening a block mapping in block context when needed. -/
def fetchKey : ScanM Unit := do
  let s ← get
  if s.flowLevel == 0 then
    if !s.simpleKeyAllowed then
      failHere "mapping keys are not allowed in this context"
    rollIndent s.mark.column none .blockMappingStart s.mark
  removeSimpleKey
  modify fun s => { s with simpleKeyAllowed := s.flowLevel == 0 }
  takeIndicator .key 1

/-- Queues `:`. After a possible simple key, the `KEY` token (and a block mapping start) is
inserted where the key began. -/
def fetchValue : ScanM Unit := do
  let s ← get
  let k := s.simpleKeys.headD SimpleKey.vacant
  if k.possible then
    insertNumbered k.tokenNumber ⟨.key, k.mark, k.mark⟩
    rollIndent k.mark.column (some k.tokenNumber) .blockMappingStart k.mark
    setTopKey { k with possible := false }
    modify fun s => { s with simpleKeyAllowed := false }
  else
    if s.flowLevel == 0 then
      if !s.simpleKeyAllowed then
        failHere "mapping values are not allowed in this context"
      rollIndent s.mark.column none .blockMappingStart s.mark
    modify fun s => { s with simpleKeyAllowed := s.flowLevel == 0 }
  takeIndicator .value 1

/-- Queues an anchor or alias, which may start a simple key. -/
def fetchAnchor (isAlias : Bool) : ScanM Unit := do
  saveSimpleKey
  modify fun s => { s with simpleKeyAllowed := false }
  enqueue (← scanAnchor isAlias)

/-- Queues a tag, which may start a simple key. -/
def fetchTag : ScanM Unit := do
  saveSimpleKey
  modify fun s => { s with simpleKeyAllowed := false }
  enqueue (← scanTag)

/-- Queues a block scalar; a simple key may follow it. -/
def fetchBlockScalar (literal : Bool) : ScanM Unit := do
  removeSimpleKey
  modify fun s => { s with simpleKeyAllowed := true }
  enqueue (← scanBlockScalar literal)

/-- Queues a quoted scalar, which may start a simple key. -/
def fetchFlowScalar (single : Bool) : ScanM Unit := do
  saveSimpleKey
  modify fun s => { s with simpleKeyAllowed := false }
  enqueue (← scanFlowScalar single)

/-- Queues a plain scalar, which may start a simple key. -/
def fetchPlainScalar : ScanM Unit := do
  saveSimpleKey
  modify fun s => { s with simpleKeyAllowed := false }
  enqueue (← scanPlainScalar)

/-- Scans the next token, choosing the kind by the characters ahead. -/
def fetchNextToken : ScanM Unit := do
  cache 1
  if !(← get).streamStartProduced then
    fetchStreamStart
    return
  scanToNextToken
  staleSimpleKeys
  unrollIndent (← here).column
  cache 4
  let c0 ← peek 0
  let c1 ← peek 1
  let s ← get
  let flow := s.flowLevel != 0
  if isEnd c0 then fetchStreamEnd
  else if s.mark.column == 0 && c0 == '%' then fetchDirective
  else if (← atDocumentMarker) && c0 == '-' then fetchDocumentIndicator .documentStart
  else if (← atDocumentMarker) && c0 == '.' then fetchDocumentIndicator .documentEnd
  else if c0 == '[' then fetchFlowCollectionStart .flowSequenceStart
  else if c0 == '\x7b' then fetchFlowCollectionStart .flowMappingStart
  else if c0 == ']' then fetchFlowCollectionEnd .flowSequenceEnd
  else if c0 == '\x7d' then fetchFlowCollectionEnd .flowMappingEnd
  else if c0 == ',' then fetchFlowEntry
  else if c0 == '-' && isBlankOrEnd c1 then fetchBlockEntry
  else if c0 == '?' && (flow || isBlankOrEnd c1) then fetchKey
  else if c0 == ':' && (flow || isBlankOrEnd c1) then fetchValue
  else if c0 == '*' then fetchAnchor true
  else if c0 == '&' then fetchAnchor false
  else if c0 == '!' then fetchTag
  else if c0 == '|' && !flow then fetchBlockScalar true
  else if c0 == '>' && !flow then fetchBlockScalar false
  else if c0 == '\'' then fetchFlowScalar true
  else if c0 == '"' then fetchFlowScalar false
  else if !(isBlankOrEnd c0 || isIndicator c0) || (c0 == '-' && !isBlank c1) ||
      (!flow && (c0 == '?' || c0 == ':') && !isBlankOrEnd c1) then fetchPlainScalar
  else fail "while scanning for the next token" s.mark "found character that cannot start any token"

/-- Whether another token must be scanned before the head of the queue can be handed out:
the queue is empty, or a simple key that may still be completed starts at the head. -/
def needMoreTokens : ScanM Bool := do
  if (← get).queue.isEmpty then return true
  staleSimpleKeys
  let s ← get
  pure (s.simpleKeys.any fun k => k.possible && k.tokenNumber == s.tokensParsed)

/-- Scans until the head of the queue can be handed out. -/
def fetchMoreTokens : ScanM Unit := do
  let n ← bound
  for _ in [0:n] do
    if !(← needMoreTokens) then break
    fetchNextToken
  modify fun s => { s with tokenAvailable := true }

/-- The next token, scanning as far as needed. -/
def peekToken : ScanM Token := do
  if !(← get).tokenAvailable then fetchMoreTokens
  let s ← get
  pure (s.queue.headD ⟨.streamEnd, s.mark, s.mark⟩)

/-- Hands out the head token. -/
def skipToken : ScanM Unit :=
  modify fun s =>
    let isStreamEnd := match s.queue.head? with
      | some ⟨.streamEnd, _, _⟩ => true
      | _ => false
    { s with tokenAvailable := false, tokensParsed := s.tokensParsed + 1,
             streamEndProduced := isStreamEnd, queue := s.queue.tail }

end Scanner

end SwiftDevEnv.Yaml
