/-!
# YAML input characters

The reader takes a text and hands the scanner its characters. A leading byte order mark is
dropped (its three bytes still count in byte offsets). Some characters may not appear in
YAML at all: the C0 and C1 controls other than tab, line feed, carriage return and next
line, the surrogates, and U+FFFE and U+FFFF.

Characters are decoded in chunks of 16384 input bytes, a chunk holding the characters that
end inside it. A forbidden character makes its whole chunk fail, so the scanner may use every
character of the chunks before it and fails as soon as it asks for any character past them.
-/

namespace SwiftDevEnv.Yaml

/-- The number of input bytes decoded at a time. -/
def chunkSize : Nat := 16384

/-- Whether a character may appear in a YAML stream. -/
def allowedChar (c : Char) : Bool :=
  let n := c.toNat
  n == 0x09 || n == 0x0A || n == 0x0D || (0x20 ≤ n && n ≤ 0x7E) || n == 0x85 ||
    (0xA0 ≤ n && n ≤ 0xD7FF) || (0xE000 ≤ n && n ≤ 0xFFFD) || (0x10000 ≤ n && n ≤ 0x10FFFF)

/-- The characters of a stream, and where reading them fails if it does: the number of
characters that can be read before the failure and the byte offset of the bad character.
`byteOffsets` holds the byte offset of each character from the first, and of the end. -/
structure Input where
  chars : Array Char
  failure : Option (Nat × Nat)
  byteOffsets : Array Nat
  deriving Inhabited

/-- The byte offsets of characters from the first, and of their end. -/
def byteOffsetsOf (cs : List Char) : Array Nat :=
  let (offsets, last) := cs.foldl (fun (acc, o) c => (acc.push o, o + c.utf8Size)) (#[], 0)
  offsets.push last

/-- The byte offset of the character at a position, counted from the first character. -/
def Input.byteOffset (input : Input) (position : Nat) : Nat :=
  input.byteOffsets.getD position (input.byteOffsets.back?.getD 0)

/-- The first forbidden character: its byte offset and byte width. -/
def firstForbidden : List Char → Nat → Option (Nat × Nat)
  | [], _ => none
  | c :: rest, offset =>
    if allowedChar c then firstForbidden rest (offset + c.utf8Size) else some (offset, c.utf8Size)

/-- How many characters, counted from the front, end at or before byte `bound`. -/
def charsEndingBy : List Char → Nat → Nat → Nat
  | [], _, _ => 0
  | c :: rest, offset, bound =>
    if offset + c.utf8Size ≤ bound then charsEndingBy rest (offset + c.utf8Size) bound + 1 else 0

/-- The characters of a text as the scanner sees them. -/
def Input.ofString (text : String) : Input :=
  let all := text.toList
  let (chars, start) :=
    match all with
    | '\uFEFF' :: rest => (rest, 3)
    | _ => (all, 0)
  let failure :=
    (firstForbidden chars start).map fun (offset, width) =>
      let chunk := (offset + width - 1) / chunkSize
      (charsEndingBy chars start (chunk * chunkSize), offset)
  ⟨chars.toArray, failure, byteOffsetsOf chars⟩

end SwiftDevEnv.Yaml
