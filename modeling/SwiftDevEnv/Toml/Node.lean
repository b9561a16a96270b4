import SwiftDevEnv.Toml.Datetime
import SwiftDevEnv.Decimal.Binary64

/-!
# The tree of a settings file

A settings file is a tree: strings, integers, floats, booleans and date-times at the leaves,
arrays, tables and arrays of tables inside. Every node read from a text remembers the byte
range it came from, so that a reader that rejects it can point at it; a table remembers how
it came to be: written inline, opened by a header, or made on the way to a deeper key (then it
is implicit), and whether that key was dotted.

The same tree, with the ranges dropped and each table's keys sorted, is the plain value of a
file, on which layers are merged.
-/

namespace SwiftDevEnv.Toml

open SwiftDevEnv.Decimal

/-- A range of bytes of the text, from `start` up to but not including `stop`. -/
structure Span where
  start : Nat
  stop : Nat
  deriving DecidableEq, Repr, Inhabited

/-- A key of a table with where it was written. -/
structure Key where
  name : String
  span : Option Span
  deriving DecidableEq, Repr, Inhabited

/-- How a table came to be. -/
structure Shape where
  inline : Bool
  implicit : Bool
  dotted : Bool
  deriving DecidableEq, Repr, Inhabited

/-- A node of the tree. -/
inductive Node where
  | string (s : String) (span : Option Span)
  | integer (i : Int) (span : Option Span)
  | float (x : Binary64) (span : Option Span)
  | boolean (b : Bool) (span : Option Span)
  | datetime (d : Datetime) (span : Option Span)
  | array (items : List Node) (span : Option Span)
  | table (entries : List (Key × Node)) (shape : Shape) (span : Option Span)
  | tables (items : List Node) (span : Option Span)
  deriving Repr, Inhabited

namespace Node

/-- The range a node came from. -/
def span : Node → Option Span
  | .string _ s | .integer _ s | .float _ s | .boolean _ s | .datetime _ s | .array _ s
  | .table _ _ s | .tables _ s => s

/-- The kind of a node, as a message names it. -/
def typeName : Node → String
  | .string .. => "string"
  | .integer .. => "integer"
  | .float .. => "float"
  | .boolean .. => "boolean"
  | .datetime .. => "datetime"
  | .array .. => "array"
  | .table _ shape _ => if shape.inline then "inline table" else "table"
  | .tables .. => "array of tables"

/-- The node with the range it was read from. -/
def withSpan (n : Node) (s : Span) : Node :=
  match n with
  | .string v _ => .string v (some s)
  | .integer v _ => .integer v (some s)
  | .float v _ => .float v (some s)
  | .boolean v _ => .boolean v (some s)
  | .datetime v _ => .datetime v (some s)
  | .array v _ => .array v (some s)
  | .table es shape _ => .table es shape (some s)
  | .tables v _ => .tables v (some s)

/-- An empty table of the given shape. -/
def emptyTable (shape : Shape) (span : Option Span) : Node := .table [] shape span

end Node

/-- Sorts entries by key, as a map ordered by key holds them. -/
def sortEntries (entries : List (Key × Node)) : List (Key × Node) :=
  entries.mergeSort (fun a b => decide (a.1.name ≤ b.1.name))

mutual

/-- The plain value of a node: no ranges, tables sorted by key, arrays of tables as arrays. -/
def Node.plain : Node → Node
  | .string s _ => .string s none
  | .integer i _ => .integer i none
  | .float x _ => .float x none
  | .boolean b _ => .boolean b none
  | .datetime d _ => .datetime d none
  | .array items _ => .array (plainItems items) none
  | .table entries _ _ => .table (sortEntries (plainEntries entries)) ⟨false, false, false⟩ none
  | .tables items _ => .array (plainItems items) none

/-- The plain values of a list of nodes. -/
def plainItems : List Node → List Node
  | [] => []
  | n :: rest => n.plain :: plainItems rest

/-- The plain values of a list of entries, keys without ranges. -/
def plainEntries : List (Key × Node) → List (Key × Node)
  | [] => []
  | (k, n) :: rest => (⟨k.name, none⟩, n.plain) :: plainEntries rest

end

/-- The shape of a table of plain values. -/
def Shape.plain : Shape := ⟨false, false, false⟩

/-- Sets the entry of a key in a sorted entry list, keeping it sorted. -/
def setSorted (k : Key) (n : Node) : List (Key × Node) → List (Key × Node)
  | [] => [(k, n)]
  | (k', n') :: rest =>
    if k.name < k'.name then (k, n) :: (k', n') :: rest
    else if k.name = k'.name then (k', n) :: rest
    else (k', n') :: setSorted k n rest

mutual

/-- Lays a value over another: tables are merged key by key, anything else replaces. -/
def Node.overlay : Node → Node → Node
  | .table base shape span, .table top _ _ => .table (overlayEntries base top) shape span
  | _, top => top

/-- Lays the entries of a table over a sorted entry list. -/
def overlayEntries (base : List (Key × Node)) : List (Key × Node) → List (Key × Node)
  | [] => base
  | (k, n) :: rest =>
    let merged := match base.find? (·.1.name == k.name) with
      | some (_, old) => setSorted k (old.overlay n) base
      | none => setSorted k n base
    overlayEntries merged rest

end

end SwiftDevEnv.Toml
