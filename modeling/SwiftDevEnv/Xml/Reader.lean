import SwiftDevEnv.Xml.Tree

/-!
# Reading XML documents

A well-formed XML document is an optional declaration, comments, processing instructions
and white space around exactly one root element. Document type declarations are refused, so
the only entities are the five predefined ones and character references. A reference to a
number of at most 32 bits that names no character stands for U+FFFD.

The declaration is recognised only as `<?xml` and a space at the very start. It names a
version and may name an encoding and a standalone flag, in that order; their values are not
checked. Any other processing instruction is skipped, whatever its target, unless it starts
like the declaration.

Names may hold one colon, which separates a namespace prefix. An `xmlns:p` attribute binds
`p` for its element and the descendants, and `xmlns` binds the default namespace. The
namespace of `xml` may be bound only to that prefix and that prefix only to it. The namespace
of `xmlns` is never bound, and an element may not carry that prefix. One element may not bind
a prefix twice, though it may bind the default namespace twice. An element's prefix must be
bound, and `xml` never is for elements. An attribute's prefix must be bound or be `xml`, and
no two attributes of an element share their local name and namespace.

In text, a carriage return becomes a line feed when plain text follows it, the line feed of
the pair then dropped, or when it ends the text. A character written as a reference, and the
character right after it, are taken as they stand, so a carriage return before a reference
stays. In attribute values every white space character becomes a space. A document that
breaks any of these rules has no tree.

Loops are bounded by the length of the text, since each pass consumes a character.
-/

namespace SwiftDevEnv.Xml

/-- Reading steps over the characters of a document, from a position; failing means the
document is not well formed. -/
abbrev ReadM := ReaderT (Array Char) (StateT Nat (Except Unit))

/-- Characters XML allows. -/
def isXmlChar (c : Char) : Bool :=
  let n := c.toNat
  n == 0x9 || n == 0xA || n == 0xD || (0x20 ≤ n && n ≤ 0xD7FF) || (0xE000 ≤ n && n ≤ 0xFFFD) ||
    (0x10000 ≤ n && n ≤ 0x10FFFF)

/-- White space in XML. -/
def isSpace (c : Char) : Bool := c == ' ' || c == '\t' || c == '\n' || c == '\r'

/-- Characters that may start a name (the colon aside, which separates a prefix). -/
def isNameStart (c : Char) : Bool :=
  let n := c.toNat
  ('A' ≤ c && c ≤ 'Z') || ('a' ≤ c && c ≤ 'z') || c == '_' ||
    (0xC0 ≤ n && n ≤ 0xD6) || (0xD8 ≤ n && n ≤ 0xF6) || (0xF8 ≤ n && n ≤ 0x2FF) ||
    (0x370 ≤ n && n ≤ 0x37D) || (0x37F ≤ n && n ≤ 0x1FFF) || (0x200C ≤ n && n ≤ 0x200D) ||
    (0x2070 ≤ n && n ≤ 0x218F) || (0x2C00 ≤ n && n ≤ 0x2FEF) || (0x3001 ≤ n && n ≤ 0xD7FF) ||
    (0xF900 ≤ n && n ≤ 0xFDCF) || (0xFDF0 ≤ n && n ≤ 0xFFFD) || (0x10000 ≤ n && n ≤ 0xEFFFF)

/-- Characters that may continue a name. -/
def isNameChar (c : Char) : Bool :=
  let n := c.toNat
  isNameStart c || c == '-' || c == '.' || ('0' ≤ c && c ≤ '9') || n == 0xB7 ||
    (0x300 ≤ n && n ≤ 0x36F) || (0x203F ≤ n && n ≤ 0x2040)

namespace Reading

/-- Gives up: the document is not well formed. -/
def fail : ReadM α := throw ()

/-- The character `k` places ahead, or NUL past the end. -/
def peek (k : Nat) : ReadM Char := do
  pure ((← read).getD ((← get) + k) '\x00')

/-- Whether every character has been read. -/
def atEnd : ReadM Bool := do pure ((← get) ≥ (← read).size)

/-- Moves on by `n` characters. -/
def advance (n : Nat) : ReadM Unit := modify (· + n)

/-- A bound on the passes of any loop. -/
def bound : ReadM Nat := do pure ((← read).size + 2)

/-- Whether the text ahead starts with `s`. -/
def ahead (s : String) : ReadM Bool := do
  let cs ← read
  let i ← get
  pure (s.toList.zipIdx.all fun (c, k) => cs.getD (i + k) '\x00' == c && i + k < cs.size)

/-- Consumes `s` or fails. -/
def expect (s : String) : ReadM Unit := do
  if ← ahead s then advance s.length else fail

/-- Skips white space, telling whether there was any. -/
def skipSpaces : ReadM Bool := do
  let mut any := false
  for _ in [0:← bound] do
    if (← atEnd) || !isSpace (← peek 0) then break
    advance 1
    any := true
  pure any

/-- Reads a name: a start character, or a colon, and then name characters and colons. -/
def readName : ReadM String := do
  let c ← peek 0
  if (← atEnd) || !(isNameStart c || c == ':') then fail
  let mut out := ""
  for _ in [0:← bound] do
    let c ← peek 0
    if (← atEnd) || !(isNameChar c || c == ':') then break
    out := out.push c
    advance 1
  pure out

/-- Reads a name with an optional prefix: `local` or `prefix:local`. The local name and a
non-empty prefix start with a start character; the prefix may be empty. -/
def readQName : ReadM (String × String) := do
  let mut pfx : Option String := none
  let mut cur := ""
  for _ in [0:← bound] do
    if ← atEnd then break
    let c ← peek 0
    if c == ':' then
      if pfx.isSome then fail
      pfx := some cur
      cur := ""
      advance 1
    else if isNameChar c then
      cur := cur.push c
      advance 1
    else break
  let startsWell (n : String) : Bool := match n.toList with
    | c :: _ => isNameStart c
    | [] => true
  if cur.isEmpty || !startsWell cur || !startsWell (pfx.getD "") then fail
  pure (pfx.getD "", cur)

/-- Skips the `=` of an attribute and the white space around it. -/
def readEquals : ReadM Unit := do
  let _ ← skipSpaces
  expect "="
  let _ ← skipSpaces

/-- Reads a character or entity reference after its `&`. A number needs at least one digit
and at most 32 bits; one that names no character stands for U+FFFD. -/
def readReference : ReadM Char := do
  advance 1
  if (← peek 0) == '#' then
    advance 1
    let hex := (← peek 0) == 'x'
    if hex then advance 1
    let mut value := 0
    let mut digits := 0
    for _ in [0:← bound] do
      let c ← peek 0
      let d :=
        if '0' ≤ c && c ≤ '9' then some (c.toNat - 48)
        else if hex && 'a' ≤ c && c ≤ 'f' then some (c.toNat - 87)
        else if hex && 'A' ≤ c && c ≤ 'F' then some (c.toNat - 55)
        else none
      match d with
      | some d =>
        value := value * (if hex then 16 else 10) + d
        digits := digits + 1
        advance 1
        if value > 0xFFFFFFFF then fail
      | none => break
    if digits == 0 then fail
    let c := if value ≤ 0x10FFFF && !(0xD800 ≤ value && value ≤ 0xDFFF) then Char.ofNat value
      else '\uFFFD'
    if !isXmlChar c then fail
    expect ";"
    pure c
  else
    let name ← readName
    expect ";"
    match name with
    | "lt" => pure '<'
    | "gt" => pure '>'
    | "amp" => pure '&'
    | "apos" => pure '\''
    | "quot" => pure '"'
    | _ => fail

/-- Adds a character of plain text after the characters read so far. A carriage return
before it becomes a line feed, and the character is dropped when it is the line feed of that
pair; a carriage return that ends the text becomes a line feed. -/
def pushText (out : Array Char) (c : Char) (last : Bool) : Array Char :=
  if out.back? == some '\r' then
    let out := out.pop.push '\n'
    if last && c == '\r' then out.push '\n' else if c == '\n' then out else out.push c
  else if last && c == '\r' then out.push '\n'
  else out.push c

/-- Reads character data up to the next `<` or the end, with references replaced and line
ends normalized. -/
def readText : ReadM String := do
  let mut out : Array Char := #[]
  let mut asIs := false
  for _ in [0:← bound] do
    if ← atEnd then break
    let c ← peek 0
    if c == '<' then break
    if c == ']' && (← ahead "]]>") then fail
    if c == '&' then
      out := out.push (← readReference)
      asIs := true
    else
      if !isXmlChar c then fail
      advance 1
      let last := (← atEnd) || (← peek 0) == '<'
      out := if asIs then out.push c else pushText out c last
      asIs := false
  pure (String.ofList out.toList)

/-- Reads up to a terminator, which is consumed; the characters before it must be XML
characters, with line ends normalized. -/
def readUntil (terminator : String) : ReadM String := do
  let mut out := ""
  for _ in [0:← bound] do
    if ← atEnd then fail
    if ← ahead terminator then
      advance terminator.length
      return out
    let c ← peek 0
    if !isXmlChar c then fail
    if c == '\r' then
      advance (if (← peek 1) == '\n' then 2 else 1)
      out := out.push '\n'
    else
      out := out.push c
      advance 1
  fail

/-- Reads a comment after its `<!--`: no `--` inside and no `-` at the end. -/
def readComment : ReadM Unit := do
  let body ← readUntil "-->"
  let cs := body.toList
  if (cs.zip cs.tail).any (fun (a, b) => a == '-' && b == '-') || cs.getLast? == some '-' then
    fail

/-- Reads a processing instruction from its `<?`: a target name, white space and any text
up to `?>`. It may not start like the declaration. -/
def readInstruction : ReadM Unit := do
  if ← ahead "<?xml " then fail
  advance 2
  let _ ← readName
  let _ ← skipSpaces
  let _ ← readUntil "?>"

/-- Reads a quoted attribute value, references replaced and white space made spaces. -/
def readAttributeValue : ReadM String := do
  let q ← peek 0
  if q != '"' && q != '\'' then fail
  advance 1
  let mut out := ""
  for _ in [0:← bound] do
    if ← atEnd then fail
    let c ← peek 0
    if c == q then
      advance 1
      return out
    if c == '<' then fail
    if c == '&' then
      out := out.push (← readReference)
    else if c == '\r' then
      advance (if (← peek 1) == '\n' then 2 else 1)
      out := out.push ' '
    else
      if !isXmlChar c then fail
      out := out.push (if isSpace c then ' ' else c)
      advance 1
  fail

/-- Reads a quoted value that may not hold `<`, without looking inside it. -/
def skipQuoted : ReadM Unit := do
  let q ← peek 0
  if q != '"' && q != '\'' then fail
  advance 1
  for _ in [0:← bound] do
    if ← atEnd then fail
    let c ← peek 0
    if !isXmlChar c then fail
    if c == q then
      advance 1
      return
    if c == '<' then fail
    advance 1
  fail

/-- Reads a setting of the declaration: a name, `=` and a quoted value. -/
def readSetting : ReadM Unit := do
  let _ ← readQName
  readEquals
  skipQuoted

/-- Skips the white space between settings of the declaration, which only its end may
replace. -/
def readSettingGap : ReadM Unit := do
  if !(← skipSpaces) && !(← ahead "?>") && !(← atEnd) then fail

/-- Reads the XML declaration at the start of a document: a version, then optionally an
encoding and a standalone flag. -/
def readDeclaration : ReadM Unit := do
  advance 5
  readSettingGap
  if !(← ahead "version") then fail
  readSetting
  readSettingGap
  if ← ahead "encoding" then
    readSetting
    readSettingGap
  if ← ahead "standalone" then readSetting
  let _ ← skipSpaces
  expect "?>"

/-- A start tag: its prefix and local name, its attributes as prefix, local name and value,
and whether it closes itself. -/
structure StartTag where
  pfx : String
  localName : String
  attributes : List (String × String × String)
  selfClosing : Bool

/-- Reads a start tag from its `<`. Attributes must be separated by white space. -/
def readStartTag : ReadM StartTag := do
  advance 1
  let (p, l) ← readQName
  let mut attrs : List (String × String × String) := []
  for _ in [0:← bound] do
    let spaced ← skipSpaces
    if ← ahead "/>" then
      advance 2
      return ⟨p, l, attrs, true⟩
    if ← ahead ">" then
      advance 1
      return ⟨p, l, attrs, false⟩
    if !spaced then fail
    let (ap, al) ← readQName
    readEquals
    let v ← readAttributeValue
    attrs := attrs ++ [(ap, al, v)]
  fail

/-- The namespace bindings in force: a prefix, or none for the default namespace, and its
name, innermost first. -/
abbrev Scope := List (Option String × String)

/-- The name of the namespace of the prefix `xml`. -/
def xmlNamespace : String := "http://www.w3.org/XML/1998/namespace"

/-- The name of the namespace of the prefix `xmlns`. -/
def xmlnsNamespace : String := "http://www.w3.org/2000/xmlns/"

/-- An element whose end tag is still to come. -/
structure OpenElement where
  pfx : String
  localName : String
  attributes : List (String × String)
  scope : Scope
  children : Array Node

/-- Adds a node to the children, merging adjacent text. -/
def addChild (children : Array Node) (n : Node) : Array Node :=
  match n, children.back? with
  | .text "", _ => children
  | .text s, some (.text t) => children.pop.push (.text (t ++ s))
  | n, _ => children.push n

/-- The bindings that the attributes of a start tag make, in order, checking each. -/
def bindings (attributes : List (String × String × String)) : ReadM Scope := do
  let mut own : Scope := []
  for (p, l, v) in attributes do
    if p == "xmlns" then
      if v == xmlnsNamespace then fail
      if (l == "xml") != (v == xmlNamespace) then fail
      if own.any (·.1 == some l) then fail
      if v != xmlNamespace then own := own ++ [(some l, v)]
    else if l == "xmlns" then
      if v == xmlNamespace || v == xmlnsNamespace then fail
      own := own ++ [(none, v)]
  pure own

/-- The namespace of a prefix in a scope; an empty prefix without a default namespace has
none, and an unbound prefix is refused. -/
def namespaceOf (scope : Scope) (p : String) : ReadM (Option String) :=
  match scope.find? (·.1 == (if p.isEmpty then none else some p)) with
  | some (_, name) => pure (some name)
  | none => if p.isEmpty then pure none else fail

/-- Opens an element from its start tag inside the scope of its parent, checking its
bindings, its prefixes and that no two attributes have the same expanded name. -/
def openElement (tag : StartTag) (outer : Scope) : ReadM OpenElement := do
  if tag.pfx == "xmlns" then fail
  let own ← bindings tag.attributes
  let scope := own ++ outer.filter fun (n, _) => !own.any (·.1 == n)
  let plain := tag.attributes.filter fun (p, l, _) => p != "xmlns" && l != "xmlns"
  let mut seen : List (Option String × String) := []
  for (p, l, _) in plain do
    let ns ← if p == "xml" then pure (some xmlNamespace)
      else if p.isEmpty then pure none
      else namespaceOf scope p
    if seen.contains (ns, l) then fail
    seen := seen ++ [(ns, l)]
  let _ ← namespaceOf scope tag.pfx
  let unprefixed := plain.filterMap fun (p, l, v) => if p.isEmpty then some (l, v) else none
  pure ⟨tag.pfx, tag.localName, unprefixed, scope, #[]⟩

/-- Closes an element into a node. -/
def OpenElement.close (e : OpenElement) : Node := .element e.localName e.attributes e.children.toList

/-- Reads an element and everything in it, from its `<`. -/
def readElement : ReadM Node := do
  let tag ← readStartTag
  let root ← openElement tag []
  if tag.selfClosing then return root.close
  let mut stack : List OpenElement := [root]
  for _ in [0:← bound] do
    if ← atEnd then fail
    match stack with
    | [] => fail
    | top :: rest =>
      if ← ahead "</" then
        advance 2
        let (p, l) ← readQName
        let _ ← skipSpaces
        expect ">"
        if p != top.pfx || l != top.localName then fail
        match rest with
        | [] => return top.close
        | parent :: more => stack := { parent with children := addChild parent.children top.close } :: more
      else if ← ahead "<!--" then
        advance 4
        readComment
        stack := { top with children := addChild top.children .other } :: rest
      else if ← ahead "<![CDATA[" then
        advance 9
        let s ← readUntil "]]>"
        stack := { top with children := addChild top.children (.text s) } :: rest
      else if ← ahead "<?" then
        readInstruction
        stack := { top with children := addChild top.children .other } :: rest
      else if ← ahead "<!" then fail
      else if ← ahead "<" then
        let t ← readStartTag
        let e ← openElement t top.scope
        if t.selfClosing then stack := { top with children := addChild top.children e.close } :: rest
        else stack := e :: stack
      else
        let s ← readText
        stack := { top with children := addChild top.children (.text s) } :: rest
  fail

/-- Reads comments, processing instructions and white space outside the root element. Before
the root it stops at the root's `<`; after it, at the end. -/
def readMisc (afterRoot : Bool) : ReadM Unit := do
  for _ in [0:← bound] do
    let _ ← skipSpaces
    if ← atEnd then
      if afterRoot then return
      fail
    if ← ahead "<!--" then
      advance 4
      readComment
    else if ← ahead "<?" then
      readInstruction
    else if !afterRoot && (← peek 0) == '<' && (← peek 1) != '!' then return
    else fail
  fail

/-- Reads a whole document, giving its root element. -/
def readDocument : ReadM Node := do
  if (← peek 0) == '\uFEFF' && !(← atEnd) then advance 1
  if ← ahead "<?xml " then readDeclaration
  readMisc false
  let root ← readElement
  readMisc true
  pure root

end Reading

/-- The root element of a well-formed document. -/
def parse (text : String) : Option Node :=
  match (Reading.readDocument.run text.toList.toArray).run 0 with
  | .ok (root, _) => some root
  | .error _ => none

end SwiftDevEnv.Xml
