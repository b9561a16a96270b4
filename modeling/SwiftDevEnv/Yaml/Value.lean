import SwiftDevEnv.Yaml.Reading
import SwiftDevEnv.Json.Printer

/-!
# YAML values

A YAML value is null, a boolean, an integer of 64 bits (signed or unsigned), a float, a
string, a sequence, a mapping with its entries in order, or a value with a local tag
(`!name`). Scalars are resolved by their core tag, or, when untagged or locally tagged and
plain, by what they spell; quoted scalars are strings. An integer that needs 128 bits has no
value.

Keys of a mapping are values too, and a key may be written once. Keys are compared as values:
NaN equals NaN, the two zeros are equal, tags are compared without a leading `!`, and two
mappings are equal when they have the same entries in any order. A repeated key is reported
at its mapping.
-/

namespace SwiftDevEnv.Yaml

open SwiftDevEnv.Decoding SwiftDevEnv.Decimal

/-- A YAML value. -/
inductive Value where
  | null
  | bool (b : Bool)
  | integer (i : Int)
  | float (x : Binary64)
  | string (s : String)
  | sequence (items : List Value)
  | mapping (entries : List (Value × Value))
  | tagged (tag : String) (value : Value)
  deriving Repr, Inhabited

/-- The value without its tags. -/
def Value.untag : Value → Value
  | .tagged _ v => v.untag
  | v => v

/-- A string, through tags. -/
def Value.text? (v : Value) : Option String :=
  match v.untag with
  | .string s => some s
  | _ => none

/-- A list of strings, through tags; null is the empty list. -/
def Value.texts? (v : Value) : Option (List String) :=
  match v.untag with
  | .null => some []
  | .sequence items => items.mapM Value.text?
  | _ => none

/-- A string that may be null. -/
def Value.optionalText? (v : Value) : Option (Option String) :=
  match v with
  | .null => some none
  | v => v.text?.map some

/-- A float that is not a number. -/
def Binary64.isNaN (x : Binary64) : Bool := !x.isFinite && x.fraction != 0

/-- Float equality, except that NaN equals NaN. -/
def sameFloat (x y : Binary64) : Bool :=
  (Binary64.isNaN x && Binary64.isNaN y) ||
    (!Binary64.isNaN x && !Binary64.isNaN y && (x.bits == y.bits || (x.isZero && y.isZero)))

/-- A tag without one leading `!`, unless that is all of it. -/
def unbanged (tag : String) : String :=
  match tag.toList with
  | '!' :: rest@(_ :: _) => String.ofList rest
  | _ => tag

mutual

/-- Whether two values are equal as keys. -/
def Value.same : Value → Value → Bool
  | .null, .null => true
  | .bool a, .bool b => a == b
  | .integer a, .integer b => a == b
  | .float a, .float b => sameFloat a b
  | .string a, .string b => a == b
  | .sequence as, .sequence bs => sameItems as bs
  | .mapping as, .mapping bs => as.length == bs.length && containsEntries as bs
  | .tagged t a, .tagged u b => unbanged t == unbanged u && a.same b
  | _, _ => false

/-- Whether two lists of values are equal item by item. -/
def sameItems : List Value → List Value → Bool
  | [], [] => true
  | a :: as, b :: bs => a.same b && sameItems as bs
  | _, _ => false

/-- Whether every entry of the first list has an equal entry in the second. -/
def containsEntries : List (Value × Value) → List (Value × Value) → Bool
  | [], _ => true
  | (k, v) :: rest, bs => findsEntry k v bs && containsEntries rest bs

/-- Whether a list has an entry equal to a key and value. -/
def findsEntry (k v : Value) : List (Value × Value) → Bool
  | [] => false
  | (k', v') :: rest => (k.same k' && v.same v') || findsEntry k v rest

end

/-- The text of a number key in a message. -/
def numberText : Value → String
  | .integer i => toString i
  | .float x =>
    if Binary64.isNaN x then ".nan"
    else if !x.isFinite then (if x.negative then "-.inf" else ".inf")
    else Json.floatTextWith false x
  | _ => ""

/-- The message for a key written twice in a mapping. -/
def duplicateKeyMessage (k : Value) : String :=
  "duplicate entry " ++ match k with
    | .null => "with null key"
    | .bool b => "with key \x60" ++ toString b ++ "\x60"
    | .integer _ | .float _ => "with key " ++ numberText k
    | .string s => "with key " ++ Text.debugQuote s
    | _ => "in YAML map"

/-- The float of a float reading: finite, infinite or NaN. -/
def FloatText.value : FloatText → Binary64
  | .finite x => x
  | .infinite negative => Binary64.ofParts negative 0x7FF 0
  | .nan => Binary64.ofParts false 0x7FF (Nat.pow 2 51)

/-- What a scalar means by its tag and style; a scalar that its core tag does not allow is
refused with a message. With `tagged`, the scalar sits under a local tag already taken off. -/
def resolveScalar (tag : Option Tag) (text : String) (style : ScalarStyle) (tagged : Bool) :
    Except String PlainValue :=
  match tag, tagged with
  | some t, false =>
    if t == boolTag then
      match boolText text with
      | some b => .ok (.bool b)
      | none => .error (invalidValue (.str text) "a boolean")
    else if t == intTag then
      match readInteger text with
      | some i => .ok (.integer i)
      | none => .error (invalidValue (.str text) "an integer")
    else if t == floatTag then
      match readFloat text with
      | some f => .ok (.float f)
      | none => .error (invalidValue (.str text) "a float")
    else if t == nullTag then
      if isNullText text then .ok .null else .error (invalidValue (.str text) "null")
    else if t.head? == some 33 && style == .plain then .ok (resolvePlain text)
    else .ok (.string text)
  | _, _ => if style == .plain then .ok (resolvePlain text) else .ok (.string text)

/-- How a reader names a resolved scalar it did not want. -/
def PlainValue.found : PlainValue → Found
  | .null => .unit
  | .bool b => .bool b
  | .integer (.fits v) => if 0 ≤ v then .unsigned v.toNat else .signed v
  | .integer (.wideUnsigned n) => .other ("integer \x60" ++ toString n ++ "\x60 as u128")
  | .integer (.wideSigned i) => .other ("integer \x60" ++ toString i ++ "\x60 as i128")
  | .float f => .float f.value
  | .string s => .str s

/-- The message for a scalar given to a reader that expects something else. -/
def scalarMismatch (tag : Option Tag) (text : String) (style : ScalarStyle) (expecting : String) :
    String :=
  match resolveScalar tag text style false with
  | .ok v => invalidType v.found expecting
  | .error message => message

/-- The value of a resolved scalar; an integer of 128 bits has none. -/
def PlainValue.value : PlainValue → Except String Value
  | .null => .ok .null
  | .bool b => .ok (.bool b)
  | .integer (.fits v) => .ok (.integer v)
  | .float f => .ok (.float f.value)
  | .string s => .ok (.string s)
  | p => .error (invalidType p.found "any YAML value")

/-- The value of a scalar. -/
def scalarValue (tag : Option Tag) (text : String) (style : ScalarStyle) (tagged : Bool) :
    Except DecodeError Value :=
  match resolveScalar tag text style tagged with
  | .ok v => v.value.mapError (.message · none)
  | .error message => .error (.message message none)

/-- The local tag of a node, unless it was taken off already. -/
def tagName (tag : Option Tag) (tagged : Bool) : Option String :=
  if tagged then none else localTagName tag

mutual

/-- Reads one node as a value; `tagged` says that its local tag was taken off already. -/
def readValue (doc : Document) : Nat → Reading → NodePath → Nat → Bool →
    Except DecodeError (Value × Reading)
  | 0, _, _, _, _ => .error .endOfStream
  | fuel + 1, r, path, depth, tagged => do
    let (node, m) ← doc.at r
    let r1 := { r with pos := r.pos + 1 }
    let local? := match node with
      | .scalar tag _ _ | .sequenceStart tag | .mappingStart tag => tagName tag tagged
      | _ => none
    let result : Except DecodeError (Value × Reading) :=
      match local? with
      | some name => do
        let (v, r2) ← readValue doc fuel r path depth true
        pure (.tagged name v, r2)
      | none =>
        match node with
        | .alias id => do
          let r2 ← doc.jump r1 id
          let (v, r3) ← readValue doc fuel r2 (.alias path) depth false
          pure (v, { r3 with pos := r1.pos })
        | .scalar tag text style => (scalarValue tag text style tagged).map (·, r1)
        | .sequenceStart _ =>
          if depth == 0 then .error (.recursionLimit m)
          else do
            let (items, r2) ← readItems doc fuel r1 path (depth - 1) 0 []
            pure (.sequence items, { r2 with pos := r2.pos + 1 })
        | .mappingStart _ =>
          if depth == 0 then .error (.recursionLimit m)
          else do
            let (entries, r2) ← readEntries doc fuel r1 path (depth - 1) tagged []
            pure (.mapping entries, { r2 with pos := r2.pos + 1 })
        | .void => .ok (.null, r1)
        | _ => .error .endOfStream
    result.mapError (DecodeError.locate m path.text)

/-- Reads the items of a sequence up to its end. -/
def readItems (doc : Document) : Nat → Reading → NodePath → Nat → Nat → List Value →
    Except DecodeError (List Value × Reading)
  | 0, _, _, _, _, _ => .error .endOfStream
  | fuel + 1, r, path, depth, index, acc => do
    let (node, _) ← doc.at r
    match node with
    | .sequenceEnd | .void => pure (acc.reverse, r)
    | _ =>
      let (v, r2) ← readValue doc fuel r (.seq path index) depth false
      readItems doc fuel r2 path depth (index + 1) (v :: acc)

/-- Reads the entries of a mapping up to its end; a key may be written once. The keys of a
mapping whose local tag was taken off are read as if theirs was too. -/
def readEntries (doc : Document) : Nat → Reading → NodePath → Nat → Bool → List (Value × Value) →
    Except DecodeError (List (Value × Value) × Reading)
  | 0, _, _, _, _, _ => .error .endOfStream
  | fuel + 1, r, path, depth, tagged, acc => do
    let (node, _) ← doc.at r
    match node with
    | .mappingEnd | .void => pure (acc.reverse, r)
    | _ =>
      let valuePath := match node with
        | .scalar _ t _ => NodePath.map path t
        | _ => .unknown path
      let (k, r2) ← readValue doc fuel r path depth tagged
      if acc.any (·.1.same k) then throw (.message (duplicateKeyMessage k) none)
      let (v, r3) ← readValue doc fuel r2 valuePath depth false
      readEntries doc fuel r3 path depth tagged ((k, v) :: acc)

end

end SwiftDevEnv.Yaml
