/-!
# Searching in texts

Occurrence tests and searches for a piece of text inside a longer one, on character lists:
whether it occurs, the position of its first and last occurrence, and replacing its first
occurrence. The occurrence test is the contiguous-part relation of lists
(`occurs_iff_infix`).
-/

namespace SwiftDevEnv.Text

/-- Whether `needle` occurs as a contiguous part of `haystack`. -/
def occurs (needle : List Char) : List Char → Bool
  | [] => needle.isEmpty
  | c :: rest => needle.isPrefixOf (c :: rest) || occurs needle rest

/-- Whether `needle` occurs in `haystack`. -/
def containsText (haystack needle : String) : Bool :=
  occurs needle.toList haystack.toList

/-- The search finds exactly the contiguous parts: no false hits and no misses. -/
theorem occurs_iff_infix (needle haystack : List Char) :
    occurs needle haystack = true ↔ needle <:+: haystack := by
  induction haystack with
  | nil => simp [occurs, List.infix_nil]
  | cons c rest ih => simp [occurs, ih, List.isPrefixOf_iff_prefix, List.infix_cons_iff]

/-- A text contains a needle exactly when the needle's characters are a contiguous part of
the text's. -/
theorem containsText_iff_infix (haystack needle : String) :
    containsText haystack needle = true ↔ needle.toList <:+: haystack.toList :=
  occurs_iff_infix needle.toList haystack.toList

/-- The index of the first occurrence of `needle` at or after position `i` (counting from
`i`). -/
def firstIndexFrom (needle : List Char) : List Char → Nat → Option Nat
  | [], i => if needle.isEmpty then some i else none
  | c :: rest, i => if needle.isPrefixOf (c :: rest) then some i else firstIndexFrom needle rest (i + 1)

/-- The index of the first occurrence of `needle`. -/
def firstIndex (haystack needle : List Char) : Option Nat :=
  firstIndexFrom needle haystack 0

/-- The index of the last occurrence of `needle`. -/
def lastIndex (haystack needle : List Char) : Option Nat :=
  ((List.range (haystack.length + 1)).filter (fun i => needle.isPrefixOf (haystack.drop i))).getLast?

/-- Replaces the first occurrence of `needle` by `replacement`. -/
def replaceFirst (haystack needle replacement : List Char) : List Char :=
  match firstIndex haystack needle with
  | some i => haystack.take i ++ replacement ++ haystack.drop (i + needle.length)
  | none => haystack

end SwiftDevEnv.Text
