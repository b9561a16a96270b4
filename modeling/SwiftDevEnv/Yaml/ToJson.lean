import SwiftDevEnv.Yaml.Reading
import SwiftDevEnv.Json.Value

/-!
# YAML documents as JSON values

A YAML text whose single document is read as a JSON value: mappings become objects (keys are
the text of scalar keys, and a repeated key keeps its last value), sequences become arrays and
scalars are resolved by their tag or, untagged and plain, by what they spell. Quoted scalars
are strings. A node with a local tag (`!name`) has no JSON form. Integers must fit 64 bits,
and non-finite floats become null.

A text with a second document, even an invalid one, is refused.
-/

namespace SwiftDevEnv.Yaml

open SwiftDevEnv.Decoding

/-- A message about a node, to be located at it. -/
def DecodeError.plain (text : String) : DecodeError := .message text none

/-- The JSON value of an untagged plain scalar. -/
def jsonOfPlain (text : String) : Except DecodeError Json.Value :=
  match resolvePlain text with
  | .null => .ok .null
  | .bool b => .ok (.bool b)
  | .integer (.fits v) => .ok (.number (.int v))
  | .integer _ => .error (.plain "JSON number out of range")
  | .float (.finite x) => .ok (.number (.float x))
  | .float _ => .ok .null
  | .string s => .ok (.string s)

/-- The JSON value of a scalar with its tag and style. -/
def jsonOfScalar (tag : Option Tag) (text : String) (style : ScalarStyle) :
    Except DecodeError Json.Value :=
  match tag with
  | some t =>
    if t == boolTag then
      match boolText text with
      | some b => .ok (.bool b)
      | none => .error (.plain (invalidValue (.str text) "a boolean"))
    else if t == intTag then
      match readInteger text with
      | some (.fits v) => .ok (.number (.int v))
      | some _ => .error (.plain "JSON number out of range")
      | none => .error (.plain (invalidValue (.str text) "an integer"))
    else if t == floatTag then
      match readFloat text with
      | some (.finite x) => .ok (.number (.float x))
      | some _ => .ok .null
      | none => .error (.plain (invalidValue (.str text) "a float"))
    else if t == nullTag then
      if isNullText text then .ok .null
      else .error (.plain (invalidValue (.str text) "null"))
    else if t.head? == some 33 && style == .plain then jsonOfPlain text
    else .ok (.string text)
  | none => if style == .plain then jsonOfPlain text else .ok (.string text)

/-- The message for a node with a local tag. -/
def enumInJson : DecodeError := .plain (invalidType .enum "any valid JSON value")

mutual

/-- Reads one node as a JSON value. -/
def readJson (doc : Document) : Nat → Reading → NodePath → Nat →
    Except DecodeError (Json.Value × Reading)
  | 0, _, _, _ => .error .endOfStream
  | fuel + 1, r, path, depth => do
    let (node, m) ← doc.at r
    let r1 := { r with pos := r.pos + 1 }
    let result : Except DecodeError (Json.Value × Reading) :=
      match node with
      | .alias id => do
        let r2 ← doc.jump r1 id
        let (v, r3) ← readJson doc fuel r2 (.alias path) depth
        pure (v, { r3 with pos := r1.pos })
      | .scalar tag text style =>
        if (localTagName tag).isSome then .error enumInJson
        else (jsonOfScalar tag text style).map (·, r1)
      | .sequenceStart tag =>
        if (localTagName tag).isSome then .error enumInJson
        else if depth == 0 then .error (.recursionLimit m)
        else do
          let (items, r2) ← readJsonItems doc fuel r1 path (depth - 1) 0 []
          pure (.array items, { r2 with pos := r2.pos + 1 })
      | .mappingStart tag =>
        if (localTagName tag).isSome then .error enumInJson
        else if depth == 0 then .error (.recursionLimit m)
        else do
          let (members, r2) ← readJsonMembers doc fuel r1 path (depth - 1) true []
          pure (.object members, { r2 with pos := r2.pos + 1 })
      | .void => .ok (.null, r1)
      | _ => .error .endOfStream
    result.mapError (DecodeError.locate m path.text)

/-- Reads the items of a sequence up to its end. -/
def readJsonItems (doc : Document) : Nat → Reading → NodePath → Nat → Nat → List Json.Value →
    Except DecodeError (List Json.Value × Reading)
  | 0, _, _, _, _, _ => .error .endOfStream
  | fuel + 1, r, path, depth, index, acc => do
    let (node, _) ← doc.at r
    match node with
    | .sequenceEnd | .void => pure (acc.reverse, r)
    | _ =>
      let (v, r2) ← readJson doc fuel r (.seq path index) depth
      readJsonItems doc fuel r2 path depth (index + 1) (v :: acc)

/-- Reads the entries of a mapping up to its end. -/
def readJsonMembers (doc : Document) : Nat → Reading → NodePath → Nat → Bool →
    List (String × Json.Value) → Except DecodeError (List (String × Json.Value) × Reading)
  | 0, _, _, _, _, _ => .error .endOfStream
  | fuel + 1, r, path, depth, first, acc => do
    let (node, _) ← doc.at r
    match node with
    | .mappingEnd | .void => pure (acc, r)
    | _ =>
      let valuePath := match node with
        | .scalar _ t _ => NodePath.map path t
        | _ => .unknown path
      let (key, r2) ← doc.readText r path (if first then "a string key" else "a string")
      let (v, r3) ← readJson doc fuel r2 valuePath depth
      readJsonMembers doc fuel r3 path depth false (Json.insertMember key v acc)

end

/-- Reads the single document of a YAML text as a JSON value. -/
def decodeJson (text : String) : Except DecodeError Json.Value := do
  match loadDocument true (Parser.start (Input.ofString text)) with
  | (none, _) => .error .endOfStream
  | (some doc, rest) =>
    let (v, _) ← readJson doc doc.fuel ⟨0, 0⟩ .root depthLimit
    if let some e := doc.error then throw e
    match rest with
    | none => pure v
    | some p =>
      match loadDocument false p with
      | (none, _) => pure v
      | (some _, _) => throw .moreThanOneDocument

end SwiftDevEnv.Yaml
