import SwiftDevEnv.Toml.Error
import SwiftDevEnv.Decoding.Found

/-!
# Reading typed settings out of a tree

Typed settings are read out of a tree in one of two modes. A document, just read from a text,
keeps its order of keys and its ranges, and a date-time in it is a map to a reader that wants
something else. A plain value, as layers are merged on, has sorted keys and no ranges, and a
date-time in it reads as its text.

A reader that refuses a node says what it found and what it expected; the error is placed at
the innermost node that has a range, or at the key that led to it, and records the keys that
led to it from the root. A record is read from a table, where unknown keys are skipped and a
missing key takes its default or is reported as missing, or from an array, whose items fill the
fields in order.
-/

namespace SwiftDevEnv.Toml

open SwiftDevEnv.Decoding

/-- How a tree came to be read. -/
inductive Mode where
  | document
  | plain
  deriving DecidableEq, Repr

/-- Why a typed reading failed, where, and under which keys. -/
structure DecodeError where
  message : String
  span : Option Span
  keys : List String
  deriving Repr, Inhabited

/-- The error as a settings-file error of a text, if the text is known. -/
def DecodeError.toError (e : DecodeError) (raw : Option String) : TomlError :=
  ⟨e.message, raw, e.span, e.keys⟩

/-- A typed reading. -/
abbrev Decode := Except DecodeError

/-- Fails with a message that is not yet placed. -/
def refuse {α : Type} (message : String) : Decode α := .error ⟨message, none, []⟩

/-- Places the failures of a reading at a range, unless they are placed already. -/
def placed {α : Type} (span : Option Span) (d : Decode α) : Decode α :=
  d.mapError fun e => if e.span.isSome then e else { e with span }

/-- Records that the failures of a reading happened under a key. -/
def underKey {α : Type} (k : Key) (n : Node) (d : Decode α) : Decode α :=
  d.mapError fun e =>
    let span := if e.span.isSome then e.span else n.span.orElse fun _ => k.span
    { e with span, keys := k.name :: e.keys }

/-- What a reader found in a node. -/
def Node.found (mode : Mode) : Node → Found
  | .string s _ => .str s
  | .integer i _ => .signed i
  | .float x _ => .float x
  | .boolean b _ => .bool b
  | .datetime d _ => if mode = .plain then .str d.text else .map
  | .array .. | .tables .. => .seq
  | .table .. => .map

/-- Reads a string; `expecting` names what was wanted. -/
def readText (mode : Mode) (expecting : String) (n : Node) : Decode String :=
  placed n.span <| match n with
    | .string s _ => pure s
    | .datetime d _ => if mode = .plain then pure d.text else refuse (invalidType (n.found mode) expecting)
    | _ => refuse (invalidType (n.found mode) expecting)

/-- Reads a boolean. -/
def readBool (mode : Mode) (n : Node) : Decode Bool :=
  placed n.span <| match n with
    | .boolean b _ => pure b
    | _ => refuse (invalidType (n.found mode) "a boolean")

/-- Reads an integer below `2 ^ bits`; `name` names the type wanted. -/
def readUnsigned (mode : Mode) (bits : Nat) (name : String) (n : Node) : Decode Nat :=
  placed n.span <| match n with
    | .integer i _ => if 0 ≤ i && i < Int.pow 2 bits then pure i.toNat else refuse (invalidValue (.signed i) name)
    | _ => refuse (invalidType (n.found mode) name)

/-- The items of a node read as a sequence. -/
def Node.items? : Node → Option (List Node)
  | .array items _ | .tables items _ => some items
  | _ => none

/-- Reads every item of a sequence. -/
def readList {α : Type} (mode : Mode) (item : Node → Decode α) (n : Node) : Decode (List α) :=
  placed n.span <| match n.items? with
    | some items => items.mapM fun x => placed x.span (item x)
    | none => refuse (invalidType (n.found mode) "a sequence")

/-- The message for a wrong number of items. -/
def invalidLength (len : Nat) (expecting : String) : String :=
  s!"invalid length {len}, expected {expecting}"

/-- A field of a record: its key, whether a table must have it, whether an array must reach
it, and how its node updates the record. -/
structure RecordField (α : Type) where
  name : String
  neededInTable : Bool
  neededInArray : Bool
  read : Node → α → Decode α

/-- Reads a record named `name` from a table or an array, starting from `init`. -/
def readRecord {α : Type} (mode : Mode) (name : String) (fields : List (RecordField α)) (init : α)
    (n : Node) : Decode α :=
  placed n.span <| match n with
    | .table entries _ _ => do
      let step (state : α × List String) (entry : Key × Node) : Decode (α × List String) :=
        let (acc, seen) := state
        let (k, v) := entry
        match fields.find? (·.name == k.name) with
        | some f => do return (← underKey k v (f.read v acc), k.name :: seen)
        | none => pure (acc, seen)
      let (value, seen) ← List.foldlM step (init, []) entries
      match fields.find? (fun f => f.neededInTable && !seen.contains f.name) with
      | some f => refuse s!"missing field \x60{f.name}\x60"
      | none => pure value
    | .array items _ | .tables items _ => do
      let count := fields.length
      let step (state : α × Nat) (f : RecordField α) : Decode (α × Nat) :=
        let (acc, i) := state
        match items[i]? with
        | some x => do return (← placed x.span (f.read x acc), i + 1)
        | none =>
          if f.neededInArray then refuse (invalidLength i s!"struct {name} with {count} elements")
          else pure (acc, i + 1)
      let (value, _) ← List.foldlM step (init, 0) fields
      if mode = .plain && items.length > count then
        refuse (invalidLength items.length "fewer elements in array")
      else pure value
    | _ => refuse (invalidType (n.found mode) s!"struct {name}")

/-- Reads a variant without data, by name, out of `names`. -/
def readVariant (names : List String) (name : String) : Decode Nat :=
  match names.idxOf? name with
  | some i => pure i
  | none =>
    let quoted := names.map fun v => "\x60" ++ v ++ "\x60"
    refuse ("unknown variant \x60" ++ name ++ "\x60, expected one of " ++ ", ".intercalate quoted)

/-- Checks that the data of a variant without data is empty. -/
def emptyVariantData (n : Node) : Decode Unit :=
  placed n.span <| match n with
    | .array [] _ | .tables [] _ => pure ()
    | .array .. | .tables .. => refuse "expected empty array"
    | .table [] _ _ => pure ()
    | .table .. => refuse "expected empty table"
    | _ => refuse s!"expected table, found {n.typeName}"

/-- Reads one of the variants `names`, none of which has data: a string naming it, or a table
with the name as its only key. -/
def readEnum (mode : Mode) (names : List String) (n : Node) : Decode Nat :=
  placed n.span <| match n with
    | .string s _ => readVariant names s
    | .table entries _ _ =>
      match entries with
      | [] => refuse "wanted exactly 1 element, found 0 elements"
      | [(k, v)] => do
        let i ← placed k.span (readVariant names k.name)
        emptyVariantData v
        pure i
      | _ => refuse "wanted exactly 1 element, more than 1 element"
    | _ =>
      if mode = .plain then refuse (invalidType (.other "unit variant") "string only")
      else refuse "wanted string or table"

end SwiftDevEnv.Toml
