import SwiftDevEnv.Json.Value
import SwiftDevEnv.Text.Search
import SwiftDevEnv.Text.Utf8

/-!
# Completion items

The backend describes each completion candidate by a few fields: its display text, its kind,
module and name, a template of the text to insert with typed placeholders, and a brief
documentation line. This module turns a candidate into an editor item.

* Kinds map to editor item kinds by the declaration or reference kind after the language
  prefix.
* Templates become snippets: every placeholder `<#T##text#>` (the shortest non-empty run of
  non-newline characters ending at `#>`) becomes a numbered tab stop holding the text before
  any further `##`, numbered from one left to right; the first `<#code#>` becomes the next bare
  tab stop; a leading `.` is dropped.
* For function candidates, text just typed before the cursor that the template repeats is
  removed: the last `func ` and the last `..` (replaced by `.`) found in a short window before
  the cursor, measured in bytes and widened to a character boundary.
-/

namespace SwiftDevEnv.Completion

open SwiftDevEnv.Json SwiftDevEnv.Text

/-- Editor completion item kinds, with their protocol numbers. -/
inductive ItemKind where
  | text
  | method
  | function
  | constructor
  | field
  | variable
  | classType
  | interface
  | property
  | value
  | enum
  | keyword
  | reference
  deriving DecidableEq, Repr, Inhabited

namespace ItemKind

/-- The protocol number of a kind. -/
def code : ItemKind → Nat
  | .text => 1
  | .method => 2
  | .function => 3
  | .constructor => 4
  | .field => 5
  | .variable => 6
  | .classType => 7
  | .interface => 8
  | .property => 10
  | .value => 12
  | .enum => 13
  | .keyword => 14
  | .reference => 18

/-- The name of a kind. -/
def name : ItemKind → String
  | .text => "Text"
  | .method => "Method"
  | .function => "Function"
  | .constructor => "Constructor"
  | .field => "Field"
  | .variable => "Variable"
  | .classType => "Class"
  | .interface => "Interface"
  | .property => "Property"
  | .value => "Value"
  | .enum => "Enum"
  | .keyword => "Keyword"
  | .reference => "Reference"

/-- The item kind of a backend kind: declarations and references by what they declare;
operators and subscripts count as keywords; anything else is text. -/
def ofBackendKind (kind : String) : ItemKind :=
  let rest :=
    if kind.startsWith "source.lang.swift.decl." then some (kind.drop 23).toString
    else if kind.startsWith "source.lang.swift.ref." then some (kind.drop 22).toString
    else none
  match rest with
  | none => .text
  | some r =>
    if r = "function.free" then .function
    else if r = "function.method.instance" || r = "function.method.static" then .method
    else if r = "function.operator" || r = "function.subscript" then .keyword
    else if r = "function.constructor" || r = "function.destructor" then .constructor
    else if r = "function.accessor.getter" || r = "function.accessor.setter" then .property
    else if r = "class" || r = "struct" || r = "extension.class" || r = "extension.struct" then .classType
    else if r = "enum" || r = "extension.enum" then .enum
    else if r = "enumelement" then .value
    else if r = "protocol" then .interface
    else if r = "typealias" then .reference
    else if r = "var.instance" then .field
    else if r = "var.global" || r = "var.static" || r = "var.local" then .variable
    else .text

end ItemKind

/-- The content of a placeholder after its opening `<#T##`: the shortest non-empty run of
non-newline characters followed by `#>`, and the text after that. -/
def placeholderBody : List Char → List Char → Option (List Char × List Char)
  | _, [] => none
  | acc, c :: rest =>
    if c = '\n' then none
    else
      match rest with
      | '#' :: '>' :: after => some ((c :: acc).reverse, after)
      | _ => placeholderBody (c :: acc) rest

/-- The text of a placeholder before its first `##`. -/
def placeholderName (body : List Char) : List Char :=
  match firstIndex body ['#', '#'] with
  | some i => body.take i
  | none => body

/-- What follows a placeholder is shorter than its body. -/
theorem placeholderBody_rest_length (acc cs content after : List Char)
    (h : placeholderBody acc cs = some (content, after)) : after.length < cs.length := by
  induction cs generalizing acc with
  | nil => simp [placeholderBody] at h
  | cons c rest ih =>
    unfold placeholderBody at h
    split at h
    · simp at h
    · split at h
      · simp only [Option.some.injEq, Prod.mk.injEq] at h
        obtain ⟨-, rfl⟩ := h
        simp only [List.length_cons]
        omega
      · have := ih _ h
        simp
        omega

/-- Replaces placeholders left to right, numbering tab stops from `next`; returns the text
and the next free number. -/
def replacePlaceholders (next : Nat) : List Char → List Char × Nat
  | [] => ([], next)
  | '<' :: '#' :: 'T' :: '#' :: '#' :: body =>
    match h : placeholderBody [] body with
    | some (content, after) =>
      have : after.length < body.length := placeholderBody_rest_length [] body content after h
      let (tail, n) := replacePlaceholders (next + 1) after
      ("$\x7b".toList ++ (toString next).toList ++ [':'] ++ placeholderName content ++ ['\x7d'] ++ tail, n)
    | none =>
      let (tail, n) := replacePlaceholders next ('#' :: 'T' :: '#' :: '#' :: body)
      ('<' :: tail, n)
  | c :: rest =>
    let (tail, n) := replacePlaceholders next rest
    (c :: tail, n)
termination_by cs => cs.length

/-- The snippet of a completion template. -/
def snippet (template : String) : String :=
  let (replaced, next) := replacePlaceholders 1 template.toList
  let coded := replaceFirst replaced "<#code#>".toList ("$\x7b".toList ++ (toString next).toList ++ ['\x7d'])
  match coded with
  | '.' :: rest => String.ofList rest
  | cs => String.ofList cs

/-- An edit of the source text in byte offsets. -/
structure OffsetEdit where
  start : Nat
  stop : Nat
  newText : String
  deriving DecidableEq, Repr

/-- The JSON form of an edit. -/
def OffsetEdit.toJson (e : OffsetEdit) : Value :=
  .ofMembers [("start", .ofNat e.start), ("end", .ofNat e.stop), ("new_text", .string e.newText)]

/-- Whether byte index `i` of `bytes` is a character boundary. -/
def isCharBoundary (bytes : List UInt8) (i : Nat) : Bool :=
  if i = bytes.length then true
  else match bytes[i]? with
    | some b => !isContinuation b
    | none => false

/-- The greatest character boundary at or below `i` (for `i` within the text). -/
def boundaryAtOrBelow (bytes : List UInt8) : Nat → Nat
  | 0 => 0
  | i + 1 => if isCharBoundary bytes (i + 1) then i + 1 else boundaryAtOrBelow bytes i

/-- The edit removing the last `sub` typed shortly before `offset`: within a window of
`max (2·|sub| - 1) 3` bytes before the cursor, widened to a character boundary. None when
the cursor is not on a character boundary. -/
def removeRecent (text : String) (offset : Nat) (sub replacement : String) : Option OffsetEdit :=
  let bytes := utf8Bytes text
  let o := min offset bytes.length
  let subBytes := utf8Bytes sub
  let window := max (2 * subBytes.length - 1) 3
  let start := boundaryAtOrBelow bytes (o - window)
  if !isCharBoundary bytes o then none
  else
    let piece := (bytes.take o).drop start
    let found := ((List.range (piece.length + 1)).filter (fun i => subBytes.isPrefixOf (piece.drop i))).getLast?
    found.map fun i => ⟨start + i, start + i + subBytes.length, replacement⟩

/-- Cleanups for a function completion: the `func ` and the `..` just typed. -/
def duplicateFixes (kind text : String) (offset : Nat) : List OffsetEdit :=
  if !containsText kind "source.lang.swift.decl.function." then []
  else [removeRecent text offset "func " "", removeRecent text offset ".." "."].filterMap id

/-- An editor completion item. -/
structure Item where
  label : String
  kind : ItemKind
  detail : Option String
  insertText : String
  documentation : Option String
  additionalEdits : List OffsetEdit
  deriving Repr

/-- The string member of a candidate. -/
def stringMember (entry : Value) (key : String) : Option String :=
  (entry.get? key).bind Value.asString?

/-- The editor item of a backend candidate, with cleanups for the text and cursor. -/
def Item.ofEntry (entry : Value) (text : String) (offset : Nat) : Item :=
  let kind := (stringMember entry "key.kind").getD ""
  let detail :=
    match stringMember entry "key.modulename", stringMember entry "key.name" with
    | some m, some n => some (m ++ "." ++ n)
    | none, some n => some n
    | _, _ => none
  { label := (stringMember entry "key.description").getD ""
    kind := ItemKind.ofBackendKind kind
    detail := detail
    insertText := snippet ((stringMember entry "key.sourcetext").getD "")
    documentation := stringMember entry "key.doc.brief"
    additionalEdits := duplicateFixes kind text offset }

/-- The items of a completion result; anything but an array gives none. -/
def items (results : Value) (text : String) (offset : Nat) : List Item :=
  match results with
  | .array entries => entries.map (Item.ofEntry · text offset)
  | _ => []

/-- The JSON form of an item. -/
def Item.toJson (i : Item) : Value :=
  .ofMembers [("label", .string i.label), ("kind", .string i.kind.name),
    ("detail", .ofOption i.detail), ("insert_text", .string i.insertText),
    ("documentation", .ofOption i.documentation),
    ("additional_edits", .array (i.additionalEdits.map OffsetEdit.toJson))]

end SwiftDevEnv.Completion
