import Mathlib
import SwiftDevEnv.Text.Utf8

/-!
# Reading back UTF-8

A character below `0x80` is encoded as the one byte of its code; any other as a lead byte and
one to three continuation bytes, all at least `0x80`. Reading one character at the front of an
encoding gives the character back with the encoding's length: the checks the reader makes on
the second byte (no overlong form, no surrogate, nothing above U+10FFFF) hold because the code
of every character is a Unicode scalar value. So decoding the UTF-8 bytes of a text gives the
text back.

Conversely, the reader accepts only encodings: every character it reads is made from bytes
that are that character's encoding, so a byte string decodes to a text exactly when it is the
text's UTF-8 bytes.

The line feed is encoded as the byte 10 and no other character's encoding holds that byte, so
the bytes of a text have two line feeds in a row only where the text has.
-/

namespace SwiftDevEnv.Text

private theorem byteArray_toList_loop (bs : ByteArray) (i : Nat) (r : List UInt8) :
    ByteArray.toList.loop bs i r = r.reverse ++ bs.data.toList.drop i := by
  fun_induction ByteArray.toList.loop bs i r with
  | case1 i r h ih =>
    have hi : i < bs.data.toList.length := by simpa using h
    rw [ih, List.drop_eq_getElem_cons hi]
    simp [ByteArray.get!, h]
  | case2 i r h =>
    rw [List.drop_eq_nil_of_le (by simpa using Nat.le_of_not_lt h)]
    simp

/-- The UTF-8 bytes of a text are the encodings of its characters, one after another. -/
theorem utf8Bytes_eq_flatMap (s : String) :
    utf8Bytes s = s.toList.flatMap String.utf8EncodeChar := by
  conv_lhs => rw [← String.ofList_toList (s := s)]
  simp only [utf8Bytes, String.toUTF8_eq_toByteArray, String.toByteArray_ofList, List.utf8Encode,
    ByteArray.toList, byteArray_toList_loop]
  simp

/-- The bytes of two texts written one after the other. -/
theorem utf8Bytes_append (s t : String) : utf8Bytes (s ++ t) = utf8Bytes s ++ utf8Bytes t := by
  simp [utf8Bytes_eq_flatMap]

/-- The code of a character is a Unicode scalar value: below the surrogates, or above them and
at most U+10FFFF. -/
theorem toNat_isScalar (c : Char) :
    c.toNat < 0xD800 ∨ (0xDFFF < c.toNat ∧ c.toNat < 0x110000) := by
  have := c.valid
  simp [UInt32.isValidChar, Nat.isValidChar] at this
  exact this

/-! ## One character -/

/-- A character below `0x80` is encoded as the one byte of its code. -/
theorem utf8EncodeChar_of_le_7f {c : Char} (h : c.toNat ≤ 0x7f) :
    String.utf8EncodeChar c = [UInt8.ofNat c.toNat] := by
  rw [String.utf8EncodeChar]
  simp only [Char.toNat_val]
  rw [if_pos h]

/-- A character from `0x80` to `0x7ff` is encoded as two bytes. -/
theorem utf8EncodeChar_of_le_7ff {c : Char} (h₁ : 0x7f < c.toNat) (h₂ : c.toNat ≤ 0x7ff) :
    String.utf8EncodeChar c =
      [UInt8.ofNat (c.toNat / 64 % 32 + 0xc0), UInt8.ofNat (c.toNat % 64 + 0x80)] := by
  rw [String.utf8EncodeChar]
  simp only [Char.toNat_val]
  rw [if_neg (by omega), if_pos h₂]

/-- A character from `0x800` to `0xffff` is encoded as three bytes. -/
theorem utf8EncodeChar_of_le_ffff {c : Char} (h₁ : 0x7ff < c.toNat) (h₂ : c.toNat ≤ 0xffff) :
    String.utf8EncodeChar c =
      [UInt8.ofNat (c.toNat / 4096 % 16 + 0xe0), UInt8.ofNat (c.toNat / 64 % 64 + 0x80),
        UInt8.ofNat (c.toNat % 64 + 0x80)] := by
  rw [String.utf8EncodeChar]
  simp only [Char.toNat_val]
  rw [if_neg (by omega), if_neg (by omega), if_pos h₂]

/-- A character above `0xffff` is encoded as four bytes. -/
theorem utf8EncodeChar_of_gt_ffff {c : Char} (h : 0xffff < c.toNat) :
    String.utf8EncodeChar c =
      [UInt8.ofNat (c.toNat / 262144 % 8 + 0xf0), UInt8.ofNat (c.toNat / 4096 % 64 + 0x80),
        UInt8.ofNat (c.toNat / 64 % 64 + 0x80), UInt8.ofNat (c.toNat % 64 + 0x80)] := by
  rw [String.utf8EncodeChar]
  simp only [Char.toNat_val]
  rw [if_neg (by omega), if_neg (by omega), if_neg (by omega)]

/-- An ASCII character is read back from its one byte. -/
theorem readChar_utf8EncodeChar_one {c : Char} (h : c.toNat ≤ 0x7f) (rest : List UInt8) :
    readChar (String.utf8EncodeChar c ++ rest) = .ok (c, (String.utf8EncodeChar c).length) := by
  rw [utf8EncodeChar_of_le_7f h]
  simp only [List.cons_append, List.nil_append, readChar,
    UInt8.toNat_ofNat_of_lt' (show c.toNat < 256 by omega)]
  rw [if_pos (by omega)]
  exact congrArg Except.ok (Prod.ext (Char.ofNat_toNat c) rfl)

/-- The reader's check of the byte after a lead byte `n0` of three or four: a continuation byte,
at least `lo'` after the lead byte `lo` and at most `hi'` after the lead byte `hi`. -/
theorem secondByte_check_iff {n0 n1 lo hi lo' hi' : Nat} (hne : lo ≠ hi) (hlo : 0x80 ≤ lo')
    (hhi : hi' ≤ 0xBF) :
    ¬ (!if (n0 == lo) = true then decide (lo' ≤ n1) && decide (n1 ≤ 0xBF)
        else if (n0 == hi) = true then decide (0x80 ≤ n1) && decide (n1 ≤ hi')
        else decide (0x80 ≤ n1) && decide (n1 ≤ 0xBF)) = true ↔
      (0x80 ≤ n1 ∧ n1 ≤ 0xBF) ∧ (n0 = lo → lo' ≤ n1) ∧ (n0 = hi → n1 ≤ hi') := by
  simp only [Bool.not_eq_true', Bool.not_eq_false, beq_iff_eq]
  split_ifs <;> simp only [Bool.and_eq_true, decide_eq_true_eq] <;> omega

/-- A character of two bytes is read back from them. -/
theorem readChar_utf8EncodeChar_two {c : Char} (h₁ : 0x7f < c.toNat) (h₂ : c.toNat ≤ 0x7ff)
    (rest : List UInt8) :
    readChar (String.utf8EncodeChar c ++ rest) = .ok (c, (String.utf8EncodeChar c).length) := by
  rw [utf8EncodeChar_of_le_7ff h₁ h₂]
  simp only [List.cons_append, List.nil_append, readChar, isContinuation, Bool.and_eq_true,
    decide_eq_true_eq, UInt8.le_iff_toNat_le,
    UInt8.toNat_ofNat_of_lt' (show c.toNat / 64 % 32 + 0xc0 < 256 by omega),
    UInt8.toNat_ofNat_of_lt' (show c.toNat % 64 + 0x80 < 256 by omega)]
  rw [if_neg (by omega), if_pos (by omega), if_pos (by simp; omega)]
  have hcode : (c.toNat / 64 % 32 + 0xc0 - 0xc0) * 64 + (c.toNat % 64 + 0x80 - 0x80) = c.toNat := by
    omega
  rw [hcode]
  exact congrArg Except.ok (Prod.ext (Char.ofNat_toNat c) rfl)

/-- A character of three bytes is read back from them; its code is no surrogate. The second byte
lies in the range its lead byte allows: no overlong form and no surrogate. -/
theorem readChar_utf8EncodeChar_three {c : Char} (h₁ : 0x7ff < c.toNat) (h₂ : c.toNat ≤ 0xffff)
    (rest : List UInt8) :
    readChar (String.utf8EncodeChar c ++ rest) = .ok (c, (String.utf8EncodeChar c).length) := by
  have hscalar := toNat_isScalar c
  rw [utf8EncodeChar_of_le_ffff h₁ h₂]
  simp only [List.cons_append, List.nil_append, readChar, isContinuation, Bool.and_eq_true,
    decide_eq_true_eq, UInt8.le_iff_toNat_le,
    UInt8.toNat_ofNat_of_lt' (show c.toNat / 4096 % 16 + 0xe0 < 256 by omega),
    UInt8.toNat_ofNat_of_lt' (show c.toNat / 64 % 64 + 0x80 < 256 by omega),
    UInt8.toNat_ofNat_of_lt' (show c.toNat % 64 + 0x80 < 256 by omega)]
  rw [if_neg (by omega), if_neg (by omega), if_pos (by omega), if_neg, if_pos (by simp; omega)]
  · have hcode : (c.toNat / 4096 % 16 + 0xe0 - 0xe0) * 4096 + (c.toNat / 64 % 64 + 0x80 - 0x80) * 64 +
        (c.toNat % 64 + 0x80 - 0x80) = c.toNat := by omega
    rw [hcode]
    exact congrArg Except.ok (Prod.ext (Char.ofNat_toNat c) rfl)
  · refine (secondByte_check_iff (by decide) (by decide) (by decide)).mpr ⟨by omega, ?_, ?_⟩ <;>
      intro _ <;> omega

/-- A character of four bytes is read back from them; its code is at most U+10FFFF. The second byte
lies in the range its lead byte allows: no overlong form and nothing above U+10FFFF. -/
theorem readChar_utf8EncodeChar_four {c : Char} (h : 0xffff < c.toNat) (rest : List UInt8) :
    readChar (String.utf8EncodeChar c ++ rest) = .ok (c, (String.utf8EncodeChar c).length) := by
  have hscalar := toNat_isScalar c
  rw [utf8EncodeChar_of_gt_ffff h]
  simp only [List.cons_append, List.nil_append, readChar, isContinuation, Bool.and_eq_true,
    decide_eq_true_eq, UInt8.le_iff_toNat_le,
    UInt8.toNat_ofNat_of_lt' (show c.toNat / 262144 % 8 + 0xf0 < 256 by omega),
    UInt8.toNat_ofNat_of_lt' (show c.toNat / 4096 % 64 + 0x80 < 256 by omega),
    UInt8.toNat_ofNat_of_lt' (show c.toNat / 64 % 64 + 0x80 < 256 by omega),
    UInt8.toNat_ofNat_of_lt' (show c.toNat % 64 + 0x80 < 256 by omega)]
  rw [if_neg (by omega), if_neg (by omega), if_neg (by omega), if_pos (by omega), if_neg,
    if_neg (by simp; omega), if_pos (by simp; omega)]
  · have hcode : (c.toNat / 262144 % 8 + 0xf0 - 0xf0) * 262144 +
        (c.toNat / 4096 % 64 + 0x80 - 0x80) * 4096 + (c.toNat / 64 % 64 + 0x80 - 0x80) * 64 +
        (c.toNat % 64 + 0x80 - 0x80) = c.toNat := by omega
    rw [hcode]
    exact congrArg Except.ok (Prod.ext (Char.ofNat_toNat c) rfl)
  · refine (secondByte_check_iff (by decide) (by decide) (by decide)).mpr ⟨by omega, ?_, ?_⟩ <;>
      intro _ <;> omega

/-- Every character is read back from the front of its encoding, which it takes whole. -/
theorem readChar_utf8EncodeChar (c : Char) (rest : List UInt8) :
    readChar (String.utf8EncodeChar c ++ rest) = .ok (c, (String.utf8EncodeChar c).length) := by
  by_cases h₁ : c.toNat ≤ 0x7f
  · exact readChar_utf8EncodeChar_one h₁ rest
  by_cases h₂ : c.toNat ≤ 0x7ff
  · exact readChar_utf8EncodeChar_two (by omega) h₂ rest
  by_cases h₃ : c.toNat ≤ 0xffff
  · exact readChar_utf8EncodeChar_three (by omega) h₃ rest
  · exact readChar_utf8EncodeChar_four (by omega) rest

/-! ## Texts -/

/-- Reading the encodings of characters one after another gives them back. -/
theorem decodeFrom_flatMap_utf8EncodeChar (cs : List Char) (offset : Nat) (acc : List Char) :
    decodeFrom (cs.flatMap String.utf8EncodeChar) offset acc = .ok (acc.reverse ++ cs) := by
  induction cs generalizing offset acc with
  | nil => simp [decodeFrom]
  | cons c cs ih =>
    obtain ⟨b, tail, hbt⟩ := List.exists_cons_of_ne_nil (String.utf8EncodeChar_ne_nil (c := c))
    have hread := readChar_utf8EncodeChar c (cs.flatMap String.utf8EncodeChar)
    rw [hbt, List.cons_append] at hread
    rw [List.flatMap_cons, hbt, List.cons_append, decodeFrom, hread]
    simp only [List.length_cons, Nat.add_sub_cancel, List.drop_left, ih]
    simp

/-- Decoding the UTF-8 bytes of a text gives the text back. -/
theorem decode_utf8Bytes (s : String) : decode (utf8Bytes s) = .ok s := by
  simp [decode, utf8Bytes_eq_flatMap, decodeFrom_flatMap_utf8EncodeChar, Except.map]

/-! ## Only encodings are read -/

/-- A code that is a Unicode scalar value is the code of the character made from it. -/
theorem toNat_ofNat_of_scalar {n : Nat} (h : n < 0xD800 ∨ (0xDFFF < n ∧ n < 0x110000)) :
    (Char.ofNat n).toNat = n := by
  simp [Char.toNat_ofNat, Nat.isValidChar, h]

/-- A byte is made back from its code. -/
theorem ofNat_eq_of_toNat {b : UInt8} {n : Nat} (h : n = b.toNat) : UInt8.ofNat n = b := by
  subst h
  exact UInt8.ofNat_toNat

/-- A continuation byte lies between `0x80` and `0xBF`. -/
theorem isContinuation_iff {b : UInt8} :
    isContinuation b = true ↔ 0x80 ≤ b.toNat ∧ b.toNat ≤ 0xBF := by
  simp [isContinuation, UInt8.le_iff_toNat_le]

/-- A byte below `0x80` is the encoding of the character the reader makes of it. -/
theorem utf8EncodeChar_ofNat_one {b0 : UInt8} (h0 : b0.toNat < 0x80) :
    String.utf8EncodeChar (Char.ofNat b0.toNat) = [b0] := by
  have hc := toNat_ofNat_of_scalar (n := b0.toNat) (by omega)
  rw [utf8EncodeChar_of_le_7f (by omega), hc, UInt8.ofNat_toNat]

/-- A lead byte of two and a continuation byte are the encoding of the character the reader
makes of them: a lead byte from `0xC2` on leaves no overlong form. -/
theorem utf8EncodeChar_ofNat_two {b0 b1 : UInt8} (h0 : 0xC2 ≤ b0.toNat ∧ b0.toNat ≤ 0xDF)
    (h1 : 0x80 ≤ b1.toNat ∧ b1.toNat ≤ 0xBF) :
    String.utf8EncodeChar (Char.ofNat ((b0.toNat - 0xC0) * 64 + (b1.toNat - 0x80))) = [b0, b1] := by
  have hc := toNat_ofNat_of_scalar (n := (b0.toNat - 0xC0) * 64 + (b1.toNat - 0x80)) (by omega)
  rw [utf8EncodeChar_of_le_7ff (by omega) (by omega), hc, ofNat_eq_of_toNat (b := b0) (by omega),
    ofNat_eq_of_toNat (b := b1) (by omega)]

/-- Three bytes the reader accepts are the encoding of the character it makes of them: the
range it asks of the second byte leaves no overlong form and no surrogate. -/
theorem utf8EncodeChar_ofNat_three {b0 b1 b2 : UInt8} (h0 : 0xE0 ≤ b0.toNat ∧ b0.toNat ≤ 0xEF)
    (h1 : 0x80 ≤ b1.toNat ∧ b1.toNat ≤ 0xBF) (hlow : b0.toNat = 0xE0 → 0xA0 ≤ b1.toNat)
    (hhigh : b0.toNat = 0xED → b1.toNat ≤ 0x9F) (h2 : 0x80 ≤ b2.toNat ∧ b2.toNat ≤ 0xBF) :
    String.utf8EncodeChar (Char.ofNat ((b0.toNat - 0xE0) * 4096 + (b1.toNat - 0x80) * 64 +
      (b2.toNat - 0x80))) = [b0, b1, b2] := by
  have hc := toNat_ofNat_of_scalar
    (n := (b0.toNat - 0xE0) * 4096 + (b1.toNat - 0x80) * 64 + (b2.toNat - 0x80)) (by omega)
  rw [utf8EncodeChar_of_le_ffff (by omega) (by omega), hc, ofNat_eq_of_toNat (b := b0) (by omega),
    ofNat_eq_of_toNat (b := b1) (by omega), ofNat_eq_of_toNat (b := b2) (by omega)]

/-- Four bytes the reader accepts are the encoding of the character it makes of them: the range
it asks of the second byte leaves no overlong form and nothing above U+10FFFF. -/
theorem utf8EncodeChar_ofNat_four {b0 b1 b2 b3 : UInt8}
    (h0 : 0xF0 ≤ b0.toNat ∧ b0.toNat ≤ 0xF4)
    (h1 : 0x80 ≤ b1.toNat ∧ b1.toNat ≤ 0xBF) (hlow : b0.toNat = 0xF0 → 0x90 ≤ b1.toNat)
    (hhigh : b0.toNat = 0xF4 → b1.toNat ≤ 0x8F) (h2 : 0x80 ≤ b2.toNat ∧ b2.toNat ≤ 0xBF)
    (h3 : 0x80 ≤ b3.toNat ∧ b3.toNat ≤ 0xBF) :
    String.utf8EncodeChar (Char.ofNat ((b0.toNat - 0xF0) * 262144 + (b1.toNat - 0x80) * 4096 +
      (b2.toNat - 0x80) * 64 + (b3.toNat - 0x80))) = [b0, b1, b2, b3] := by
  have hc := toNat_ofNat_of_scalar (n := (b0.toNat - 0xF0) * 262144 + (b1.toNat - 0x80) * 4096 +
      (b2.toNat - 0x80) * 64 + (b3.toNat - 0x80)) (by omega)
  rw [utf8EncodeChar_of_gt_ffff (by omega), hc, ofNat_eq_of_toNat (b := b0) (by omega),
    ofNat_eq_of_toNat (b := b1) (by omega), ofNat_eq_of_toNat (b := b2) (by omega),
    ofNat_eq_of_toNat (b := b3) (by omega)]

private theorem encoded_prefix {c : Char} {l rest : List UInt8}
    (e : String.utf8EncodeChar c = l) :
    l ++ rest = String.utf8EncodeChar c ++ rest ∧
      l.length = (String.utf8EncodeChar c).length := by
  rw [e]
  exact ⟨rfl, rfl⟩

/-- A character read at the front of a byte string stands there in its own encoding, which the
reader takes whole. Every other branch of the reader reports an invalid or unfinished sequence. -/
theorem readChar_eq_ok {bytes : List UInt8} {c : Char} {w : Nat} (h : readChar bytes = .ok (c, w)) :
    ∃ rest, bytes = String.utf8EncodeChar c ++ rest ∧ w = (String.utf8EncodeChar c).length := by
  revert h
  fun_cases readChar bytes
  case case2 b0 rest n0 h0 =>
    intro h
    obtain ⟨rfl, rfl⟩ := Prod.mk.inj (Except.ok.inj h)
    exact ⟨rest, encoded_prefix (utf8EncodeChar_ofNat_one h0)⟩
  case case4 b0 n0 h0 h0' b1 rest h1 =>
    intro h
    obtain ⟨rfl, rfl⟩ := Prod.mk.inj (Except.ok.inj h)
    have e := utf8EncodeChar_ofNat_two
      (show 0xC2 ≤ b0.toNat ∧ b0.toNat ≤ 0xDF by simpa using h0') (isContinuation_iff.mp h1)
    exact ⟨rest, encoded_prefix e⟩
  case case9 b0 n0 h0 h0' h0'' b1 n1 ok1 hok b2 rest h2 =>
    intro h
    obtain ⟨rfl, rfl⟩ := Prod.mk.inj (Except.ok.inj h)
    have h1 : (0x80 ≤ b1.toNat ∧ b1.toNat ≤ 0xBF) ∧
        (b0.toNat = 0xE0 → 0xA0 ≤ b1.toNat) ∧ (b0.toNat = 0xED → b1.toNat ≤ 0x9F) :=
      (secondByte_check_iff (by decide) (by decide) (by decide)).mp hok
    have e := utf8EncodeChar_ofNat_three
      (show 0xE0 ≤ b0.toNat ∧ b0.toNat ≤ 0xEF by simpa using h0'') h1.1 h1.2.1 h1.2.2
      (isContinuation_iff.mp h2)
    exact ⟨rest, encoded_prefix e⟩
  case case16 b0 n0 h0 h0' h0'' h0''' b1 n1 ok1 hok b2 hcont2 b3 rest h3 =>
    intro h
    obtain ⟨rfl, rfl⟩ := Prod.mk.inj (Except.ok.inj h)
    have h1 : (0x80 ≤ b1.toNat ∧ b1.toNat ≤ 0xBF) ∧
        (b0.toNat = 0xF0 → 0x90 ≤ b1.toNat) ∧ (b0.toNat = 0xF4 → b1.toNat ≤ 0x8F) :=
      (secondByte_check_iff (by decide) (by decide) (by decide)).mp hok
    have h2 : isContinuation b2 = true := by simpa using hcont2
    have e := utf8EncodeChar_ofNat_four
      (show 0xF0 ≤ b0.toNat ∧ b0.toNat ≤ 0xF4 by simpa using h0''') h1.1 h1.2.1 h1.2.2
      (isContinuation_iff.mp h2) (isContinuation_iff.mp h3)
    exact ⟨rest, encoded_prefix e⟩
  all_goals intro h; cases h

/-- What the reader accepts are the encodings of the characters it collects, one after
another. -/
theorem decodeFrom_eq_ok {bytes : List UInt8} {offset : Nat} {acc out : List Char}
    (h : decodeFrom bytes offset acc = .ok out) :
    ∃ cs, bytes = cs.flatMap String.utf8EncodeChar ∧ out = acc.reverse ++ cs := by
  induction bytes, offset, acc using decodeFrom.induct with
  | case1 offset acc =>
    rw [decodeFrom] at h
    exact ⟨[], rfl, by simpa using h.symm⟩
  | case2 b rest offset acc c width hread ih =>
    rw [decodeFrom, hread] at h
    obtain ⟨cs, hcs, rfl⟩ := ih h
    obtain ⟨r, hbytes, rfl⟩ := readChar_eq_ok hread
    obtain ⟨e, etail, he⟩ := List.exists_cons_of_ne_nil (String.utf8EncodeChar_ne_nil (c := c))
    rw [he, List.cons_append, List.cons.injEq] at hbytes
    obtain ⟨rfl, rfl⟩ := hbytes
    rw [he, List.length_cons, Nat.add_sub_cancel, List.drop_left] at hcs
    refine ⟨c :: cs, ?_, by simp⟩
    rw [List.flatMap_cons, he, ← hcs]
    rfl
  | case3 b rest offset acc len hread =>
    rw [decodeFrom, hread] at h
    cases h

/-- A byte string decodes to a text exactly when it is the text's UTF-8 bytes. -/
theorem decode_eq_ok_iff {bytes : List UInt8} {s : String} :
    decode bytes = .ok s ↔ bytes = utf8Bytes s := by
  constructor
  · intro h
    simp only [decode] at h
    rcases hd : decodeFrom bytes 0 [] with e | cs
    · rw [hd] at h
      cases h
    · rw [hd] at h
      obtain ⟨cs', hbytes, hcs⟩ := decodeFrom_eq_ok hd
      have hs : String.ofList cs' = s := by simpa [Except.map, hcs] using h
      rw [hbytes, ← hs, utf8Bytes_eq_flatMap, String.toList_ofList]
  · rintro rfl
    exact decode_utf8Bytes s

/-! ## Line feeds -/

/-- Two neighbours that are not both `x`. -/
def NotBoth {α : Type} (x a b : α) : Prop := a ≠ x ∨ b ≠ x

instance {α : Type} [DecidableEq α] (x : α) : DecidableRel (NotBoth x) :=
  fun a b => inferInstanceAs (Decidable (a ≠ x ∨ b ≠ x))

/-- Two lists without two `x` in a row, joined where they do not meet in two `x`, have none. -/
theorem isChain_notBoth_append {α : Type} {x : α} {a b : List α} (ha : a.IsChain (NotBoth x))
    (hb : b.IsChain (NotBoth x)) (h : a.getLast? ≠ some x ∨ b.head? ≠ some x) :
    (a ++ b).IsChain (NotBoth x) :=
  ha.append hb fun _ hu _ hv => h.imp (fun hl hx => hl (hx ▸ hu)) (fun hh hx => hh (hx ▸ hv))

/-- A character is encoded as the one byte of its code when that is below `0x80`, and otherwise
as bytes of `0x80` or more. -/
theorem utf8EncodeChar_ascii_or_high (c : Char) :
    (c.toNat < 0x80 ∧ String.utf8EncodeChar c = [UInt8.ofNat c.toNat]) ∨
      ∀ b ∈ String.utf8EncodeChar c, 0x80 ≤ b.toNat := by
  by_cases h : c.toNat ≤ 0x7f
  · exact .inl ⟨by omega, utf8EncodeChar_of_le_7f h⟩
  · have hscalar := toNat_isScalar c
    refine .inr fun b hb => ?_
    rw [String.utf8EncodeChar] at hb
    simp only [Char.toNat_val] at hb
    rw [if_neg h] at hb
    split_ifs at hb <;> simp only [List.mem_cons, List.not_mem_nil, or_false] at hb <;>
      rcases hb with rfl | rfl | rfl | rfl <;> simp only [UInt8.toNat_ofNat'] <;> omega

/-- The byte 10 is in a character's encoding only when the character is a line feed. -/
theorem eq_lineFeed_of_ten_mem {c : Char} (h : 10 ∈ String.utf8EncodeChar c) : c = '\n' := by
  rcases utf8EncodeChar_ascii_or_high c with ⟨hlt, he⟩ | hhigh
  · rw [he, List.mem_singleton] at h
    have hcode : c.toNat = 10 := by
      have := congrArg UInt8.toNat h
      simp only [UInt8.toNat_ofNat, UInt8.toNat_ofNat'] at this
      omega
    rw [← Char.ofNat_toNat c, hcode]
  · exact absurd (hhigh 10 h) (by decide)

/-- The bytes of characters never two of them line feeds in a row hold no two bytes 10 in a
row. -/
theorem isChain_flatMap_utf8EncodeChar {cs : List Char} (h : cs.IsChain (NotBoth '\n')) :
    (cs.flatMap String.utf8EncodeChar).IsChain (NotBoth 10) := by
  induction cs with
  | nil => simp
  | cons c cs ih =>
    rw [List.isChain_cons] at h
    rw [List.flatMap_cons, List.isChain_append]
    refine ⟨?_, ih h.2, fun x hx y hy => ?_⟩
    · -- within one encoding only an ASCII byte can be 10, and it stands alone
      rcases utf8EncodeChar_ascii_or_high c with ⟨-, he⟩ | hhigh
      · rw [he]
        exact List.isChain_singleton _
      · exact List.isChain_iff_forall_rel_of_append_cons_cons.mpr fun a b l₁ l₂ he =>
          .inl fun ha => absurd (hhigh a (by simp [he])) (by simp [ha])
    · -- across two encodings a pair of bytes 10 would be a pair of line feeds
      obtain ⟨c', hc', hy⟩ : ∃ c' ∈ cs.head?, y ∈ String.utf8EncodeChar c' := by
        cases cs with
        | nil => simp at hy
        | cons c' cs =>
          obtain ⟨b, tail, hbt⟩ := List.exists_cons_of_ne_nil (String.utf8EncodeChar_ne_nil (c := c'))
          simp only [List.flatMap_cons, hbt, List.cons_append, List.head?_cons,
            Option.mem_def, Option.some.injEq] at hy
          exact ⟨c', rfl, by simp [hbt, hy]⟩
      rcases h.1 c' hc' with hc | hc
      · exact .inl fun hx10 => hc (eq_lineFeed_of_ten_mem (hx10 ▸ List.mem_of_getLast? hx))
      · exact .inr fun hy10 => hc (eq_lineFeed_of_ten_mem (hy10 ▸ hy))

end SwiftDevEnv.Text
