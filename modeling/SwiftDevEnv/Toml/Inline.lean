import SwiftDevEnv.Toml.Text
import SwiftDevEnv.Toml.Number
import SwiftDevEnv.Toml.Table

/-!
# Keys and values of a settings file

A key is one or more simple keys joined by dots, each bare (letters, digits, dashes and
underscores) or quoted as a basic or literal string, with blanks allowed around the dots. A
value is a string, a boolean, a number, a date-time, an array in square brackets or an inline
table in braces; the kind is chosen by its first byte, and a byte that starts no value is read
as a string that is not there. Arrays may spread over lines and hold comments; an inline table
is one line of `key = value` pairs separated by commas.

Arrays and inline tables nest at most 79 deep, and a key has fewer than 80 parts.
-/

namespace SwiftDevEnv.Toml

namespace Grammar

/-- The message of a structure nested too deep. -/
def recursionLimit : String := "recursion limit exceeded"

/-- How deep arrays and inline tables may nest. -/
def nestingRoom : Nat := 79

/-- One bare or quoted key, with where it was written. -/
def simpleKey : Grammar Key := do
  let a ← pos
  let name ← match ← peek with
    | some 0x22 => basicString
    | some 0x27 => literalString
    | some _ => do let _ ← span1 1 isBareKeyByte; text a (← pos)
    | none => fail
  return ⟨name, some ⟨a, ← pos⟩⟩

/-- `g` repeated with `sep` between, at least once; a separator not followed by `g` is left
unread. -/
def separatedOnce {α : Type} (g : Grammar α) (sep : Grammar Unit) : Grammar (List α) := do
  let first ← g
  let mut acc := [first]
  for _ in [0:(← size) + 1] do
    match ← optional (do sep; g) with
    | some a => acc := acc ++ [a]
    | none => break
  return acc

/-- `g` repeated with `sep` between, possibly never. -/
def separated {α : Type} (g : Grammar α) (sep : Grammar Unit) : Grammar (List α) := do
  match ← optional g with
  | none => return []
  | some first =>
    let mut acc := [first]
    for _ in [0:(← size) + 1] do
      match ← optional (do sep; g) with
      | some a => acc := acc ++ [a]
      | none => break
    return acc

/-- A dotted key. -/
def key : Grammar (List Key) := do
  let start ← pos
  let keys ← labelled "key" (separatedOnce (do blanks; let k ← simpleKey; blanks; pure k) (byte 0x2E))
  if keys.length ≥ 80 then refuseSoftly start recursionLimit
  return keys

/-- Marks a failure as the failure to read a string, for bytes that start no other value. -/
def asString {α : Type} (g : Grammar α) : Grammar α :=
  expecting '\'' (expecting '"' (labelled "string" g))

/-- An array whose items are read by `item`. -/
def array (item : Grammar Node) : Grammar (List Node) := do
  byte 0x5B
  let items ← commit do
    if (← peek) == some 0x5D then return []
    let elem : Grammar Node := do blanksAndBreaks; let v ← item; blanksAndBreaks; pure v
    let items ← separated elem (byte 0x2C)
    if !items.isEmpty then let _ ← optional (byte 0x2C)
    blanksAndBreaks
    return items
  expecting ']' (labelled "array" (commit (byte 0x5D)))
  return items

/-- Gathers the pairs of an inline table into a table, refusing a key written twice. -/
def inlineTableOf (pairs : List (List Key × Key × Node)) : Except TableError Table :=
  let add (root : Table) (pair : List Key × Key × Node) : Except TableError Table :=
    let (path, k, v) := pair
    (descend true true path (fun t =>
      if t.shape.dotted == path.isEmpty then .error (.duplicateKey k.name none)
      else if t.has k.name then .error (.duplicateKey k.name none)
      else .ok (t.push k v, ())) 0 path root).map (·.1)
  List.foldlM add ⟨[], ⟨true, false, false⟩, none⟩ pairs

/-- An inline table whose values are read by `item`. -/
def inlineTable (item : Grammar Node) : Grammar (List (Key × Node)) := do
  byte 0x7B
  let start ← pos
  let table ← commit do
    let pair : Grammar (List Key × Key × Node) := do
      let keys ← key
      commit do
        expecting '=' (expecting '.' (byte 0x3D))
        blanks
        let v ← item
        blanks
        pure (keys.dropLast, keys.getLast?.getD default, v)
    let pairs ← separated pair (byte 0x2C)
    blanks
    match inlineTableOf pairs with
    | .ok t => pure t
    | .error e => refuseSoftly start e.message
  expecting '}' (labelled "inline table" (commit (byte 0x7D)))
  return table.entries

/-- A scalar value, chosen by its first byte. -/
def scalar (first : UInt8) : Grammar Node := do
  let here := fun (n : Option Span → Node) => n none
  if first == 0x22 || first == 0x27 then return here (.string (← string))
  else if first == 0x2B || first == 0x2D || isDigitByte first then
    orElse (do return here (.datetime (← datetime)))
      (orElse (do return here (.float (← float))) (do return here (.integer (← integer))))
  else if first == 0x5F then
    within (.expected "leading digit") (do return here (.integer (← integer)))
  else if first == 0x2E then
    within (.expected "leading digit") (do return here (.float (← float)))
  else if first == 0x74 then asString (do commit (literal "true"); return here (.boolean true))
  else if first == 0x66 then asString (do commit (literal "false"); return here (.boolean false))
  else if first == 0x69 then asString (do return here (.float (← infinity)))
  else if first == 0x6E then asString (do return here (.float (← notANumber)))
  else asString fail

/-- A value, with `room` more levels of arrays and inline tables allowed inside it. -/
def value : Nat → Grammar Node
  | 0 => do
    let a ← pos
    let some first ← peek | fail
    if first == 0x5B || first == 0x7B then refuse a recursionLimit
    return (← scalar first).withSpan ⟨a, ← pos⟩
  | r + 1 => do
    let a ← pos
    let some first ← peek | fail
    let n ← if first == 0x5B then do pure (.array (← array (value r)) none)
      else if first == 0x7B then do
        pure (.table (← inlineTable (value r)) ⟨true, false, false⟩ none)
      else scalar first
    return n.withSpan ⟨a, ← pos⟩

end Grammar

end SwiftDevEnv.Toml
