import SwiftDevEnv.Cursor.Position

/-!
# Reading cursor information

Cursor information is a JSON object from the backend. Its `key.containertypeusr`, when a
non-empty string, names the enclosing type in mangled form; demangling it answers an array of
objects whose `key.name` strings, joined by commas, name that type. A declaration's location is
its `key.filepath` with `key.offset` and `key.length`, each zero unless a non-negative integer.
-/

namespace SwiftDevEnv.Cursor

open SwiftDevEnv.Json

/-- The mangled name of the enclosing type, when the information has a non-empty one. -/
def containerTypeUsr (info : Value) : Option String :=
  match (info.get? "key.containertypeusr").bind Value.asString? with
  | some s => if s.isEmpty then none else some s
  | none => none

/-- The names of a demangling result, joined by commas; none when there are no names. -/
def containerTypeName (demangled : Value) : Option String :=
  match demangled with
  | .array results =>
    let names := results.filterMap fun r => (r.get? "key.name").bind Value.asString?
    if names.isEmpty then none else some (",".intercalate names)
  | _ => none

/-- Where the symbol under the cursor is declared, when the information names a file. -/
def definition (info : Value) : Option Location :=
  match (info.get? "key.filepath").bind Value.asString? with
  | none => none
  | some path =>
    some ⟨path, ((info.get? "key.offset").bind Value.asNat?).getD 0,
      ((info.get? "key.length").bind Value.asNat?).getD 0⟩

end SwiftDevEnv.Cursor
