import SwiftDevEnv.Toml.Inline
import SwiftDevEnv.Toml.Error

/-!
# Settings documents

A document is a sequence of lines: blank lines, comments, `key = value` pairs and table
headers. Pairs before the first header belong to the root table; a header `[a.b]` opens the
table at that path, a header `[[a.b]]` appends a new table to the array of tables at that
path, and the pairs after a header go into the table it opened.

A table is filed into the document when the next header starts or the text ends. A header may
not name a table that was already defined, nor a key that holds a value; a table that only
came to be on the way to a deeper header may still be defined later, keeping what it holds.
Within a table, a key may be written once. A table's range runs from its header to the end of
its last value.

Reading stops at the first error: where the grammar failed, the innermost construct and what
would have fit, or why a header or pair could not be filed.
-/

namespace SwiftDevEnv.Toml

/-- The state of a document being read: the root as filed so far, the table being filled,
its path and whether it belongs to an array of tables. -/
structure Builder where
  root : Table
  current : Table
  path : List Key
  inArray : Bool
  deriving Repr, Inhabited

namespace Builder

/-- The state before the first line: the root is being filled. -/
def start : Builder := ⟨⟨[], Shape.plain, none⟩, ⟨[], Shape.plain, some ⟨0, 0⟩⟩, [], false⟩

/-- Files a pair into the table being filled. -/
def addPair (b : Builder) (path : List Key) (k : Key) (v : Node) : Except TableError Builder := do
  let current := match b.current.span, v.span with
    | some s, some t => { b.current with span := some ⟨s.start, t.stop⟩ }
    | _, _ => b.current
  let (current, ()) ← descend true false path (fun t =>
      if t.shape.dotted == path.isEmpty then .error (.duplicateKey k.name none)
      else if t.has k.name then .error (.duplicateKey k.name (some (b.path.map (·.name))))
      else .ok (t.push k v, ())) 0 path current
  return { b with current }

/-- Files the table being filled into the root. -/
def file (b : Builder) : Except TableError Table := do
  let path := b.path
  match path.getLast? with
  | none => return b.current
  | some last =>
    let i := path.length - 1
    let (root, ()) ← descend false false path (fun parent =>
        match parent.find? last.name with
        | none =>
          if b.inArray then .ok (parent.push last (.tables [b.current.node] b.current.span), ())
          else .ok (parent.push last b.current.node, ())
        | some (.tables items _) =>
          if b.inArray then
            let items := items ++ [b.current.node]
            let span := match items.head?.bind Node.span, items.getLast?.bind Node.span with
              | some s, some t => some ⟨s.start, t.stop⟩
              | _, _ => none
            .ok (parent.replace last.name (.tables items span), ())
          else .error (duplicateAt path i)
        | some (.table _ shape _) =>
          if !b.inArray && !shape.inline && shape.implicit then
            .ok (parent.replace last.name b.current.node, ())
          else .error (duplicateAt path i)
        | some _ => .error (duplicateAt path i)) 0 path.dropLast b.root
    return root

/-- Files the table being filled and opens the table a header names. -/
def openTable (b : Builder) (path : List Key) (span : Span) : Except TableError Builder := do
  let root ← b.file
  let some last := path.getLast? | .error (duplicateAt path 0)
  let i := path.length - 1
  let (root, taken) ← descend false false path (fun parent =>
      match parent.find? last.name with
      | none => .ok (parent, none)
      | some (.table es shape sp) =>
        if !shape.inline && shape.implicit && !shape.dotted then
          .ok (parent.remove last.name, some (⟨es, shape, sp⟩ : Table))
        else .error (duplicateAt path i)
      | some _ => .error (duplicateAt path i)) 0 path.dropLast root
  let table := (taken.getD ⟨[], Shape.plain, none⟩)
  return ⟨root, { table with shape := Shape.plain, span := some span }, path, false⟩

/-- Files the table being filled and starts a new table of the array a header names. -/
def openArrayTable (b : Builder) (path : List Key) (span : Span) : Except TableError Builder := do
  let root ← b.file
  let some last := path.getLast? | .error (duplicateAt path 0)
  let i := path.length - 1
  let (root, ()) ← descend false false path (fun parent =>
      match parent.find? last.name with
      | none => .ok (parent.push last (.tables [] none), ())
      | some (.tables ..) => .ok (parent, ())
      | some _ => .error (duplicateAt path i)) 0 path.dropLast root
  return ⟨root, ⟨[], Shape.plain, some span⟩, path, true⟩

end Builder

namespace Grammar

/-- Turns a refusal to file into a soft failure at `start`. -/
def filed {α : Type} (start : Nat) : Except TableError α → Grammar α
  | .ok a => pure a
  | .error e => refuseSoftly start e.message

/-- A `key = value` line. -/
def pairLine (b : Builder) : Grammar Builder := do
  let start ← pos
  let keys ← key
  let v ← commit do
    expecting '=' (expecting '.' (byte 0x3D))
    blanks
    let v ← value nestingRoom
    expecting '#' (expecting '\n' lineTrailing)
    pure v
  filed start (b.addPair keys.dropLast (keys.getLast?.getD default) v)

/-- A table header line, `[path]` or `[[path]]`. -/
def headerLine (b : Builder) : Grammar Builder :=
  labelled "table header" do
    let start ← pos
    let some _ ← peekAt 1 | fail
    let inArray ← startsWith "[["
    let opening := if inArray then "[[" else "["
    let closing := if inArray then "]]" else "]"
    literal opening
    let keys ← commit key
    commit (expecting ']' (expecting '.' (literal closing)))
    let stop ← pos
    commit (expecting '#' (expecting '\n' lineTrailing))
    if inArray then filed start (b.openArrayTable keys ⟨start, stop⟩)
    else filed start (b.openTable keys ⟨start, stop⟩)

/-- A whole document, up to the filing of its last table. -/
def document : Grammar Builder := do
  if ← startsWith "\uFEFF" then advance 3
  blanks
  let mut b := Builder.start
  for _ in [0:(← size) + 1] do
    let some first ← peek | break
    if first == 0x23 then commit (do comment; lineEnding)
    else if first == 0x5B then b ← commit (headerLine b)
    else if first == 0x0A || first == 0x0D then
      if (← optional newline).isNone then break
    else b ← commit (pairLine b)
    blanks
  atEnd
  return b

end Grammar

/-- The number of bytes of the character that starts with a given byte. -/
def leadWidth (b : UInt8) : Nat :=
  if b < 0x80 then 1 else if b < 0xE0 then 2 else if b < 0xF0 then 3 else 4

/-- The bytes of the character at a position, or of the one it falls inside: the range from
its first byte to the next character, empty at the end of the text. -/
def charSpanAt (bytes : ByteArray) (pos : Nat) : Span :=
  let isStart (i : Nat) : Bool := i ≥ bytes.size || ((bytes[i]?).getD 0 &&& 0xC0) != 0x80
  let start := ((List.range (pos + 1)).reverse.find? isStart).getD 0
  let width := if start < bytes.size then leadWidth ((bytes[start]?).getD 0) else 0
  ⟨start, min (start + width) bytes.size⟩

/-- Reads a settings document into its root table. A syntax error is placed on the character
where reading stopped. -/
def parse (text : String) : Except TomlError Node :=
  let bytes := text.toUTF8
  match (Grammar.document.run bytes).run 0 with
  | .error f => .error ⟨f.message, some text, some (charSpanAt bytes f.pos), []⟩
  | .ok (b, _) =>
    match b.file with
    | .ok root => .ok root.node
    | .error e => .error ⟨e.message, none, none, []⟩

end SwiftDevEnv.Toml
