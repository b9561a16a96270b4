import SwiftDevEnv.Yaml.Document
import SwiftDevEnv.Yaml.Scalar
import SwiftDevEnv.Decoding.Found
import SwiftDevEnv.Text.Utf8

/-!
# Reading values out of a loaded document

A reader walks the events of a document from a position. An alias sends it to the event of
its anchor and back; each such jump is counted, and more jumps than a hundred per event of the
document is refused, which bounds the work an alias-heavy document can cause. Collections may
nest 128 deep.

Errors about a node are reported with the node's mark and its path: `.` for the whole
document, `parent.key` inside a mapping, `parent[i]` inside a sequence and `?` under a key
that is not a scalar.
-/

namespace SwiftDevEnv.Yaml

/-- Where a node sits in a document. -/
inductive NodePath where
  | root
  | seq (parent : NodePath) (index : Nat)
  | map (parent : NodePath) (key : String)
  | alias (parent : NodePath)
  | unknown (parent : NodePath)
  deriving Repr, Inhabited

/-- The text of a path as messages show it. -/
def NodePath.text : NodePath → String
  | .root => "."
  | .seq p i => p.text ++ "[" ++ toString i ++ "]"
  | .map p k => (match p with
      | .root => ""
      | _ => p.text ++ ".") ++ k
  | .alias p => p.text
  | .unknown p => (match p with
      | .root => ""
      | _ => p.text ++ ".") ++ "?"

/-- A reader's position: the next event and the number of alias jumps so far. -/
structure Reading where
  pos : Nat
  jumps : Nat
  deriving Repr, Inhabited

/-- The most nested collections a reader accepts. -/
def depthLimit : Nat := 128

/-- The event at the reader's position; past the last event, the document's error. -/
def Document.at (doc : Document) (r : Reading) : Except DecodeError (Node × Mark) :=
  match doc.events[r.pos]? with
  | some e => .ok e
  | none => .error (doc.error.getD .endOfStream)

/-- Jumps to the event of an anchor, counting the jump. -/
def Document.jump (doc : Document) (r : Reading) (id : Nat) : Except DecodeError Reading :=
  let jumps := r.jumps + 1
  if jumps > doc.events.size * 100 then .error .repetitionLimit
  else .ok ⟨doc.aliases.getD id 0, jumps⟩

/-- A generous bound on how deep a reader recurses over a document. -/
def Document.fuel (doc : Document) : Nat := (doc.events.size + 2) * (depthLimit + 2)

/-- Whether a node reads as an empty mapping: nothing, or an empty plain scalar. -/
def Node.readsAsEmpty : Node → Bool
  | .void => true
  | .scalar _ text style => text.isEmpty && style == .plain
  | _ => false

/-- The bytes of a tag. -/
def tagOf (s : String) : Tag := s.toUTF8.toList

/-- The core tags that constrain a scalar. -/
def boolTag : Tag := tagOf "tag:yaml.org,2002:bool"
/-- The integer tag. -/
def intTag : Tag := tagOf "tag:yaml.org,2002:int"
/-- The float tag. -/
def floatTag : Tag := tagOf "tag:yaml.org,2002:float"
/-- The null tag. -/
def nullTag : Tag := tagOf "tag:yaml.org,2002:null"

/-- The name of a local tag (one starting with `!`), which makes a node a tagged variant:
the tag without its `!`, or `!` itself for the bare `!` tag. -/
def localTagName (tag : Option Tag) : Option String :=
  match tag with
  | some (33 :: rest) => (Text.decode (if rest.isEmpty then [33] else rest)).toOption
  | _ => none

/-- Skips one node with everything nested in it. -/
def Document.skipNode (doc : Document) : Nat → Nat → Reading → Except DecodeError Reading
  | 0, _, _ => .error .endOfStream
  | fuel + 1, open_, r => do
    let (node, _) ← doc.at r
    let r := { r with pos := r.pos + 1 }
    let open_ := match node with
      | .sequenceStart _ | .mappingStart _ => open_ + 1
      | .sequenceEnd | .mappingEnd => open_ - 1
      | _ => open_
    if open_ == 0 then pure r else doc.skipNode fuel open_ r

/-- Reads a node as a string: the text of a scalar whatever its tag, through an alias if
needed. `expecting` names the string in the message when the node is a collection. -/
def Document.readText (doc : Document) (r : Reading) (path : NodePath) (expecting : String) :
    Except DecodeError (String × Reading) :=
  let atNode (node : Node) (r1 : Reading) : Except DecodeError (String × Reading) :=
    match node with
    | .scalar _ t _ => .ok (t, r1)
    | .sequenceStart _ => .error (.message (Decoding.invalidType .seq expecting) none)
    | .mappingStart _ => .error (.message (Decoding.invalidType .map expecting) none)
    | _ => .error .endOfStream
  match doc.at r with
  | .error e => .error e
  | .ok (node, m) =>
    let r1 := { r with pos := r.pos + 1 }
    let result : Except DecodeError (String × Reading) :=
      match node with
      | .alias id => do
        let r2 ← doc.jump r1 id
        let (target, m2) ← doc.at r2
        let (t, r3) ← (atNode target { r2 with pos := r2.pos + 1 }).mapError
          (DecodeError.locate m2 (NodePath.alias path).text)
        pure (t, { r3 with pos := r1.pos })
      | node => atNode node r1
    result.mapError (DecodeError.locate m path.text)

end SwiftDevEnv.Yaml
