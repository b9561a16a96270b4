import SwiftDevEnv.Xml.Reader
import SwiftDevEnv.Text.Blank

/-!
# Documentation comments as markdown

The backend gives a symbol's documentation comment as XML. Its sections are the element
children of `CommentParts` (the root, or a child of the root), and each becomes one markdown
section: the abstract as it is, the discussion under a heading, the return and throw
descriptions after a bold label, and the parameters as a bulleted list. A section with no
text is dropped, as is a document that is not well-formed XML.

Inside a section, paragraphs are separated by blank lines, `codeVoice` becomes inline code,
code listings become fenced blocks with their language, and lists become `*` or numbered
items. Other markup is dropped and its text kept.
-/

namespace SwiftDevEnv.Cursor

open SwiftDevEnv.Xml

mutual

/-- The running text of a paragraph, `codeVoice` as inline code. -/
def inlineText : Node → String
  | .element _ _ cs => inlineTextOf cs
  | _ => ""

/-- The running text of a list of nodes. -/
def inlineTextOf : List Node → String
  | [] => ""
  | .text s :: rest => s ++ inlineTextOf rest
  | .element "codeVoice" a cs :: rest =>
    "`" ++ Node.textContent (.element "codeVoice" a cs) ++ "`" ++ inlineTextOf rest
  | .element n a cs :: rest => inlineText (.element n a cs) ++ inlineTextOf rest
  | .other :: rest => inlineTextOf rest

end

/-- A code listing as a fenced block: one line per `zCodeLineNumbered` child. -/
def codeListing (n : Node) : String :=
  let lines := (n.childElements "zCodeLineNumbered").map Node.textContent
  "```" ++ (n.attributeValue "language").getD "" ++ "\n" ++ "\n".intercalate lines ++ "\n```"

/-- How list items are marked: bullets, or numbers from one. -/
inductive ListStyle where
  | bullet
  | number
  deriving Repr, DecidableEq

/-- The marker of the item at an index. -/
def ListStyle.marker : ListStyle → Nat → String
  | .bullet, _ => "*"
  | .number, i => toString (i + 1) ++ "."

mutual

/-- A block-level element as markdown. -/
def block : Node → String
  | .element "CodeListing" a cs => codeListing (.element "CodeListing" a cs)
  | .element "List-Bullet" _ cs => "\n".intercalate (listItems .bullet 0 cs)
  | .element "List-Number" _ cs => "\n".intercalate (listItems .number 0 cs)
  | n => Text.trim (inlineText n)

/-- The non-empty blocks among some nodes' elements. -/
def blockTexts : List Node → List String
  | [] => []
  | .element n a cs :: rest =>
    let b := block (.element n a cs)
    if b.isEmpty then blockTexts rest else b :: blockTexts rest
  | _ :: rest => blockTexts rest

/-- The `Item` elements among some nodes as list lines, numbered from `index`. -/
def listItems (style : ListStyle) (index : Nat) : List Node → List String
  | [] => []
  | .element "Item" _ cs :: rest =>
    (style.marker index ++ " " ++ "\n\n".intercalate (blockTexts cs)) ::
      listItems style (index + 1) rest
  | _ :: rest => listItems style index rest

end

/-- The blocks of a node, separated by blank lines. -/
def blocks (n : Node) : String := "\n\n".intercalate (blockTexts n.children)

/-- The parameter list: one bullet per `Parameter`, with its discussion when it has one. -/
def parameters (n : Node) : Option String :=
  let items := (n.childElements "Parameter").map fun param =>
    let name := ((param.childElement "Name").map Node.textContent).getD ""
    match (param.childElement "Discussion").map blocks with
    | some d => if d.isEmpty then "* **" ++ name ++ "**" else "* **" ++ name ++ ":** " ++ d
    | none => "* **" ++ name ++ "**"
  if items.isEmpty then none else some ("**Parameters:**\n" ++ "\n".intercalate items)

/-- One section of a comment, when it is a known kind and has text. -/
def commentPart (n : Node) : Option String :=
  let withHeading (heading : String) : Option String :=
    let body := blocks n
    if body.isEmpty then none else some (heading ++ body)
  match n.name with
  | "Abstract" => withHeading ""
  | "Discussion" => withHeading "**Discussion:**\n\n"
  | "ResultDiscussion" => withHeading "**Returns:** "
  | "ThrowsDiscussion" => withHeading "**Throws:** "
  | "Parameters" => parameters n
  | _ => none

/-- The markdown sections of a documentation comment, in document order. -/
def documentationFromXml (xml : String) : List String :=
  match Xml.parse xml with
  | none => []
  | some root =>
    let parts := if root.name == "CommentParts" then some root else root.childElement "CommentParts"
    match parts with
    | none => []
    | some p => (p.children.filter Node.isElement).filterMap commentPart

/-- The text of a `Declaration` element, the root or a child of it, trimmed. -/
def declarationText (xml : String) : Option String := do
  let root ← Xml.parse xml
  let declaration ← if root.name == "Declaration" then some root else root.childElement "Declaration"
  pure (Text.trim declaration.textContent)

end SwiftDevEnv.Cursor
