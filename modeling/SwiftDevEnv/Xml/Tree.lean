/-!
# XML trees

A parsed XML document is a tree of elements, text and other nodes (comments and processing
instructions). An element keeps its local name, its attributes without a namespace prefix and
its children in document order; adjacent text, character data sections included, forms one
text node.
-/

namespace SwiftDevEnv.Xml

/-- A node of an XML tree. -/
inductive Node where
  | element (name : String) (attributes : List (String × String)) (children : List Node)
  | text (content : String)
  | other
  deriving Repr, Inhabited

namespace Node

/-- The local name of an element, empty for other nodes. -/
def name : Node → String
  | .element n _ _ => n
  | _ => ""

/-- The children of an element, none for other nodes. -/
def children : Node → List Node
  | .element _ _ cs => cs
  | _ => []

/-- Whether the node is an element. -/
def isElement : Node → Bool
  | .element .. => true
  | _ => false

/-- The value of an attribute without a namespace. -/
def attributeValue (n : Node) (key : String) : Option String :=
  match n with
  | .element _ attrs _ => (attrs.find? (·.1 == key)).map (·.2)
  | _ => none

/-- The element children with a given name. -/
def childElements (n : Node) (key : String) : List Node :=
  n.children.filter fun c => c.isElement && c.name == key

/-- The first element child with a given name. -/
def childElement (n : Node) (key : String) : Option Node := (n.childElements key).head?

mutual

/-- All text inside a node, in document order, markup dropped. -/
def textContent : Node → String
  | .text s => s
  | .element _ _ cs => textContentOf cs
  | .other => ""

/-- All text inside a list of nodes. -/
def textContentOf : List Node → String
  | [] => ""
  | c :: cs => textContent c ++ textContentOf cs

end

end Node

end SwiftDevEnv.Xml
