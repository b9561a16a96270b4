import SwiftDevEnv.Toml.Node

/-!
# Tables and the keys that reach into them

A table is a list of entries in the order their keys were first written. A dotted key or a
header names a path of keys: going down a path makes the missing tables on the way (they are
implicit, and dotted when made by a dotted key), enters the last table of an array of tables,
and refuses to go through anything that is not a table. A dotted key may not reopen a table
that a header defined.

When a key is already taken the message names the key and the table it was in. A key is
shown bare when it is made of letters, digits, dashes and underscores only, and quoted
otherwise.
-/

namespace SwiftDevEnv.Toml

/-- A table being built: its entries in order, how it came to be, where it was written. -/
structure Table where
  entries : List (Key × Node)
  shape : Shape
  span : Option Span
  deriving Repr, Inhabited

namespace Table

/-- The table as a node. -/
def node (t : Table) : Node := .table t.entries t.shape t.span

/-- The entry of a key, if any. -/
def find? (t : Table) (name : String) : Option Node := (t.entries.find? (·.1.name == name)).map (·.2)

/-- Whether a key has an entry. -/
def has (t : Table) (name : String) : Bool := t.entries.any (·.1.name == name)

/-- Adds an entry after all others. -/
def push (t : Table) (k : Key) (n : Node) : Table := { t with entries := t.entries ++ [(k, n)] }

/-- Replaces the node of a key, keeping its place and its key. -/
def replace (t : Table) (name : String) (n : Node) : Table :=
  { t with entries := t.entries.map fun (k, m) => if k.name == name then (k, n) else (k, m) }

/-- Removes the entry of a key. -/
def remove (t : Table) (name : String) : Table :=
  { t with entries := t.entries.filter (·.1.name != name) }

end Table

/-- A table made on the way to a deeper key. -/
def implicitTable (inline dotted : Bool) : Table := ⟨[], ⟨inline, true, dotted⟩, none⟩

/-- The hexadecimal digits of a code, upper case, at least four. -/
def hexCode (n : Nat) : String :=
  let digits := Nat.toDigits 16 n |>.map Char.toUpper
  String.ofList (List.replicate (4 - digits.length) '0' ++ digits)

/-- A character as it stands inside a quoted key. -/
def escapeKeyChar (c : Char) : String :=
  match c with
  | '\x08' => "\\b"
  | '\t' => "\\t"
  | '\n' => "\\n"
  | '\x0c' => "\\f"
  | '\r' => "\\r"
  | '"' => "\\\""
  | '\\' => "\\\\"
  | c => if c.toNat ≤ 0x1F || c.toNat = 0x7F then "\\u" ++ hexCode c.toNat else c.toString

/-- Whether a character may stand in a bare key. -/
def isBareKeyChar (c : Char) : Bool := c.isAlphanum || c = '-' || c = '_'

/-- How a key is shown: bare when it can be. Otherwise it goes between double quotes when it
needs no escape but for tabs, between single quotes when it holds no single quote and no control
character but the tab, and between double quotes with escapes when neither works. -/
def keyRepr (name : String) : String :=
  let cs := name.toList
  let basic := "\"" ++ String.join (cs.map escapeKeyChar) ++ "\""
  if !cs.isEmpty && cs.all isBareKeyChar then name
  else
    let control := cs.any fun c => c ≠ '\t' && (c.toNat ≤ 0x1F || c.toNat = 0x7F)
    if !control && !cs.contains '\\' && !cs.contains '"' then basic
    else if !control && !cs.contains '\'' then "'" ++ name ++ "'"
    else basic

/-- Why a table could not take a key. -/
inductive TableError where
  | duplicateKey (key : String) (table : Option (List String))
  | extendsNonTable (path : List String) (actual : String)
  deriving DecidableEq, Repr

/-- The message of a table error. -/
def TableError.message : TableError → String
  | .duplicateKey key none => s!"duplicate key \x60{key}\x60"
  | .duplicateKey key (some []) => s!"duplicate key \x60{key}\x60 in document root"
  | .duplicateKey key (some path) =>
    "duplicate key \x60" ++ key ++ "\x60 in table \x60" ++ ".".intercalate path ++ "\x60"
  | .extendsNonTable path actual =>
    "dotted key \x60" ++ ".".intercalate path ++ "\x60 attempted to extend non-table type (" ++
      actual ++ ")"

/-- The key at place `i` of a header path is taken. -/
def duplicateAt (path : List Key) (i : Nat) : TableError :=
  .duplicateKey (keyRepr ((path[i]?.map (·.name)).getD "")) (some ((path.take i).map (·.name)))

/-- Goes down the rest of a path from a table and applies `f` to the table reached. `full` is
the whole path and `i` the place of the next key in it; `dotted` says whether the path is a
dotted key, and `inline` whether it goes through inline tables. -/
def descend {α : Type} (dotted inline : Bool) (full : List Key)
    (f : Table → Except TableError (Table × α)) : Nat → List Key → Table → Except TableError (Table × α)
  | _, [], t => f t
  | i, k :: ks, t =>
    let enter (child : Table) : Except TableError (Table × α) := descend dotted inline full f (i + 1) ks child
    match t.find? k.name with
    | none => do
      let (child, a) ← enter (implicitTable inline dotted)
      pure (t.push k child.node, a)
    | some (.table es shape sp) =>
      if shape.inline != inline then
        .error (.extendsNonTable ((full.take (i + 1)).map (·.name)) "inline table")
      else if dotted && !shape.implicit then .error (.duplicateKey k.name none)
      else do
        let (child, a) ← enter ⟨es, shape, sp⟩
        pure (t.replace k.name child.node, a)
    | some (.tables items sp) =>
      match items.getLast? with
      | some (.table es shape tsp) => do
        let (child, a) ← enter ⟨es, shape, tsp⟩
        pure (t.replace k.name (.tables (items.dropLast ++ [child.node]) sp), a)
      | _ => do
        let (child, a) ← enter (implicitTable inline dotted)
        pure (t.replace k.name (.tables (items ++ [child.node]) sp), a)
    | some n => .error (.extendsNonTable ((full.take (i + 1)).map (·.name)) n.typeName)

end SwiftDevEnv.Toml
