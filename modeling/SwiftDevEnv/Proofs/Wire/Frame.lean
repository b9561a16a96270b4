import Mathlib
import SwiftDevEnv.Proofs.Text.Utf8
import SwiftDevEnv.Wire.Frame

/-!
# Splitting a frame at its id line

The line that announces a request is the decimal text of its id and a line feed. Its bytes are
the ASCII codes of the digits, none of which is a line feed or a blank, so splitting a frame
that starts with it finds the line feed right after the digits, reads the digits as text, leaves
them untouched by trimming, and parses them back to the id: a frame made of the id line of a
64-bit id and any payload splits into that id and that payload.

More generally a frame splits exactly when it is a line without line feeds, a line feed and the
payload, where the line is UTF-8 text that, trimmed of blanks, is an id text: an optional `+`
and one or more ASCII digits whose value is below `2^64`. Every other frame is reported as
malformed, for one of three reasons that the report tells apart: no line feed, no UTF-8 text
before it, or no id text there, and then the report quotes the trimmed text.
-/

namespace SwiftDevEnv.Wire

open SwiftDevEnv.Backend SwiftDevEnv.Text

/-- The code of an ASCII digit lies between those of `0` and `9`. -/
theorem toNat_of_isDigit {c : Char} (h : c.isDigit = true) : 48 ≤ c.toNat ∧ c.toNat ≤ 57 := by
  simpa [Char.isDigit, UInt32.le_iff_toNat_le] using h

/-- An ASCII digit is encoded as the one byte of its code. -/
theorem utf8EncodeChar_of_isDigit {c : Char} (h : c.isDigit = true) :
    String.utf8EncodeChar c = [UInt8.ofNat c.toNat] := by
  have hc := toNat_of_isDigit h
  unfold String.utf8EncodeChar
  rw [if_pos (by rw [Char.toNat_val]; omega)]
  rfl

/-- The bytes of the decimal digits of a number. -/
def digitBytes (n : Nat) : List UInt8 :=
  (Nat.toDigits 10 n).map fun c => UInt8.ofNat c.toNat

/-- The id line is the digits of the id followed by a line feed. -/
theorem utf8Bytes_idLine (id : Nat) : utf8Bytes (idLine id) = digitBytes id ++ [10] := by
  have h : ∀ c ∈ Nat.toDigits 10 id, String.utf8EncodeChar c = [UInt8.ofNat c.toNat] :=
    fun c hc => utf8EncodeChar_of_isDigit (Nat.isDigit_of_mem_toDigits (by decide) (by decide) hc)
  rw [utf8Bytes_eq_flatMap]
  simp only [idLine, String.toList_append, Nat.toString_eq_ofList_toDigits, String.toList_ofList,
    List.flatMap_append]
  rw [List.flatMap_congr h, ← List.map_eq_flatMap]
  rfl

/-- Every byte of a digit is an ASCII code of a digit. -/
theorem mem_digitBytes {n : Nat} {b : UInt8} (h : b ∈ digitBytes n) :
    48 ≤ b.toNat ∧ b.toNat ≤ 57 := by
  obtain ⟨c, hc, rfl⟩ := List.mem_map.mp h
  have hc := toNat_of_isDigit (Nat.isDigit_of_mem_toDigits (by decide) (by decide) hc)
  have hb : (UInt8.ofNat c.toNat).toNat = c.toNat := by
    simp [Nat.mod_eq_of_lt (by omega : c.toNat < 256)]
  rw [hb]
  exact hc

/-- The first line feed after a run of other bytes ends that run. -/
theorem idxOf?_append_cons {l rest : List UInt8} (h : ∀ b ∈ l, b ≠ 10) :
    (l ++ 10 :: rest).idxOf? 10 = some l.length := by
  induction l with
  | nil => simp [List.idxOf?_cons]
  | cons b bs ih =>
    have hb : b ≠ 10 := h b (by simp)
    simp [List.idxOf?_cons, hb, ih fun b' hb' => h b' (by simp [hb'])]

/-- No digit is a line feed. -/
theorem ne_of_mem_digitBytes {n : Nat} {b : UInt8} (h : b ∈ digitBytes n) : b ≠ 10 := by
  intro h10
  have := mem_digitBytes h
  simp [h10] at this

/-- Bytes below `0x80` read back as the characters of their codes. -/
theorem decodeFrom_of_ascii (bytes : List UInt8) (h : ∀ b ∈ bytes, b.toNat < 0x80)
    (offset : Nat) (acc : List Char) :
    decodeFrom bytes offset acc = .ok (acc.reverse ++ bytes.map fun b => Char.ofNat b.toNat) := by
  induction bytes generalizing offset acc with
  | nil => simp [decodeFrom]
  | cons b rest ih =>
    have hb : b.toNat < 0x80 := h b (by simp)
    have hread : readChar (b :: rest) = .ok (Char.ofNat b.toNat, 1) := by
      simp only [readChar, hb, if_true]
      rfl
    rw [decodeFrom, hread]
    simp [ih (fun b' hb' => h b' (by simp [hb']))]

/-- The digits of a number read back as its decimal text. -/
theorem decode_digitBytes (n : Nat) : decode (digitBytes n) = .ok (toString n) := by
  have hdigit : ∀ c ∈ Nat.toDigits 10 n, c.toNat < 0x80 := fun c hc => by
    have := toNat_of_isDigit (Nat.isDigit_of_mem_toDigits (by decide) (by decide) hc)
    omega
  have hascii : ∀ b ∈ digitBytes n, b.toNat < 0x80 := fun b hb => by
    have := mem_digitBytes hb
    omega
  have hchars : (digitBytes n).map (fun b => Char.ofNat b.toNat) = Nat.toDigits 10 n := by
    rw [digitBytes, List.map_map]
    refine (List.map_congr_left fun c hc => ?_).trans (List.map_id _)
    have := hdigit c hc
    simp [Nat.mod_eq_of_lt (by omega : c.toNat < 256)]
  simp [decode, decodeFrom_of_ascii _ hascii, hchars, Except.map, Nat.repr_eq_ofList_toDigits]

/-- The first line feed of a byte string splits it into the bytes before it and the rest. -/
theorem idxOf?_eq_some_iff {frame : List UInt8} {i : Nat} :
    frame.idxOf? 10 = some i ↔
      ∃ line rest, 10 ∉ line ∧ frame = line ++ 10 :: rest ∧ i = line.length := by
  constructor
  · intro h
    obtain ⟨hi, hget, hbefore⟩ := List.idxOf?_eq_some_iff.mp h
    refine ⟨frame.take i, frame.drop (i + 1), fun hmem => ?_, ?_, by simp; omega⟩
    · obtain ⟨j, hj, hjget⟩ := List.getElem_of_mem hmem
      simp only [List.length_take] at hj
      exact hbefore j (by omega) (by simpa using hjget)
    · rw [← hget, List.getElem_cons_drop hi, List.take_append_drop]
  · rintro ⟨line, rest, hline, rfl, rfl⟩
    exact idxOf?_append_cons fun b hb h10 => hline (h10 ▸ hb)

/-- A text without blank characters is left as it is by trimming. -/
theorem trimChars_of_not_isBlank {cs : List Char} (h : ∀ c ∈ cs, isBlank c = false) :
    trimChars cs = cs := by
  have hdrop : ∀ l : List Char, (∀ c ∈ l, isBlank c = false) → l.dropWhile isBlank = l := by
    intro l hl
    cases l with
    | nil => rfl
    | cons c r => simp [hl c (by simp)]
  rw [trimChars, hdrop cs h, hdrop cs.reverse (by simpa using h), List.reverse_reverse]

/-- A digit is not blank. -/
theorem isBlank_of_isDigit {c : Char} (h : c.isDigit = true) : isBlank c = false := by
  have := toNat_of_isDigit h
  simp only [isBlank, Bool.or_eq_false_iff, Bool.and_eq_false_iff, beq_eq_false_iff_ne,
    decide_eq_false_iff_not, not_le]
  omega

/-- Decimal digits read left to right give the value that core's reader of digits gives. -/
theorem foldl_digits_eq_ofDigitChars (digits : List Char) :
    digits.foldl (fun acc c => acc * 10 + (c.toNat - 48)) 0 = Nat.ofDigitChars 10 digits 0 := by
  rw [Nat.ofDigitChars_eq_foldl]
  congr 1
  funext acc c
  rw [Nat.mul_comm]
  rfl

/-- The decimal text of a 64-bit number parses back to it. -/
theorem parseId_toString {n : Nat} (h : n < Nat.pow 2 64) : parseId (toString n) = some n := by
  have hdigits : ∀ c ∈ Nat.toDigits 10 n, c.isDigit = true :=
    fun c hc => Nat.isDigit_of_mem_toDigits (by decide) (by decide) hc
  have hvalue : (Nat.toDigits 10 n).foldl (fun acc c => acc * 10 + (c.toNat - 48)) 0 = n := by
    rw [foldl_digits_eq_ofDigitChars, Nat.ofDigitChars_ten_toDigits]
  obtain ⟨c, rest, hds⟩ := List.exists_cons_of_ne_nil (Nat.toDigits_ne_nil (n := n) (b := 10))
  have hne : c ≠ '+' := fun hc => by
    have := toNat_of_isDigit (hdigits c (by simp [hds]))
    simp [hc] at this
  rw [hds] at hdigits hvalue
  simp only [parseId, Nat.toString_eq_ofList_toDigits, String.toList_ofList, hds]
  simp [hne, hvalue, h, List.all_eq_true.mpr hdigits]

/-- A frame made of the id line of a 64-bit id and any payload splits into that id and that
payload. -/
theorem splitFrame_idLine {id : Nat} (h : id < Nat.pow 2 64) (payload : List UInt8) :
    splitFrame (utf8Bytes (idLine id) ++ payload) = .ok (id, payload) := by
  have htrim : trim (toString id) = toString id := by
    rw [trim, Nat.toString_eq_ofList_toDigits, String.toList_ofList,
      trimChars_of_not_isBlank fun c hc =>
        isBlank_of_isDigit (Nat.isDigit_of_mem_toDigits (by decide) (by decide) hc)]
  rw [utf8Bytes_idLine, List.append_assoc, List.singleton_append]
  simp only [splitFrame, idxOf?_append_cons fun b hb => ne_of_mem_digitBytes hb, List.take_left',
    decode_digitBytes, htrim, parseId_toString h]
  simp

/-- An id text: an optional `+`, then one or more ASCII digits whose decimal value is `n`, which
is below `2^64`. -/
def IsIdText (text : String) (n : Nat) : Prop :=
  ∃ digits : List Char, (text.toList = digits ∨ text.toList = '+' :: digits) ∧
    digits ≠ [] ∧ (∀ c ∈ digits, c.isDigit = true) ∧ Nat.ofDigitChars 10 digits 0 = n ∧
    n < Nat.pow 2 64

/-- The digits of an id text, its sign removed, are read exactly when they are a run of ASCII
digits whose value is below `2^64`. -/
private theorem parseDigits_eq_some_iff (digits : List Char) (n : Nat) :
    (if (digits.isEmpty || !digits.all Char.isDigit) = true then none
      else if Nat.ofDigitChars 10 digits 0 < Nat.pow 2 64 then some (Nat.ofDigitChars 10 digits 0)
      else none) = some n ↔
    digits ≠ [] ∧ (∀ c ∈ digits, c.isDigit = true) ∧ Nat.ofDigitChars 10 digits 0 = n ∧
      n < Nat.pow 2 64 := by
  split_ifs with hbad hlt
  · simp only [Bool.or_eq_true, List.isEmpty_iff, Bool.not_eq_true', List.all_eq_false] at hbad
    simp only [false_iff]
    rintro ⟨hne, hall, -⟩
    rcases hbad with hnil | ⟨c, hc, hnd⟩
    · exact hne hnil
    · simp [hall c hc] at hnd
  · simp only [Bool.or_eq_true, List.isEmpty_iff, Bool.not_eq_true', List.all_eq_false, not_or,
      not_exists, not_and, Bool.not_eq_true, Bool.not_eq_false] at hbad
    simp only [Option.some.injEq]
    constructor
    · rintro rfl
      exact ⟨hbad.1, hbad.2, rfl, hlt⟩
    · rintro ⟨-, -, h, -⟩
      exact h
  · simp only [false_iff]
    rintro ⟨-, -, rfl, hn⟩
    exact hlt hn

/-- An id is read from a text exactly when the text is an id text of that id. -/
theorem parseId_eq_some_iff {text : String} {n : Nat} :
    parseId text = some n ↔ IsIdText text n := by
  unfold parseId IsIdText
  dsimp only
  split
  next rest hcs =>
    simp only [hcs, foldl_digits_eq_ofDigitChars, parseDigits_eq_some_iff, List.cons.injEq,
      true_and]
    constructor
    · exact fun h => ⟨rest, Or.inr rfl, h⟩
    · rintro ⟨digits, rfl | rfl, hne, hall, hval⟩
      · simp at hall
      · exact ⟨hne, hall, hval⟩
  next hcs =>
    simp only [foldl_digits_eq_ofDigitChars, parseDigits_eq_some_iff]
    constructor
    · exact fun h => ⟨text.toList, Or.inl rfl, h⟩
    · rintro ⟨digits, rfl | h, hd⟩
      · exact hd
      · exact (hcs digits h).elim

/-- A frame without a line feed has no id line. -/
theorem splitFrame_of_not_mem {frame : List UInt8} (h : 10 ∉ frame) :
    splitFrame frame = .error (.malformedFrame "missing id line") := by
  simp [splitFrame, List.idxOf?_eq_none_iff.mpr h]

/-- A frame is read at its first line feed: the line before it is decoded, its trimmed text is
parsed as the id, and the payload is everything after the line feed. -/
theorem splitFrame_line {line : List UInt8} (hline : 10 ∉ line) (rest : List UInt8) :
    splitFrame (line ++ 10 :: rest) =
      match decode line with
      | .error _ => .error (.malformedFrame "id line is not UTF-8")
      | .ok text =>
        match parseId (trim text) with
        | some id => .ok (id, rest)
        | none => .error (.malformedFrame (trim text)) := by
  have hidx := idxOf?_eq_some_iff.mpr ⟨line, rest, hline, rfl, rfl⟩
  rcases hdec : decode line with u | text
  · simp [splitFrame, hidx, hdec]
  rcases hid : parseId (trim text) with _ | id
  · simp [splitFrame, hidx, hdec, hid]
  · simp [splitFrame, hidx, hdec, hid]

/-- A frame has no line feed, or is a line without one, a line feed, and the rest. -/
theorem not_mem_or_first_lineFeed (frame : List UInt8) :
    10 ∉ frame ∨ ∃ line rest, 10 ∉ line ∧ frame = line ++ 10 :: rest := by
  rcases hidx : frame.idxOf? 10 with _ | i
  · exact .inl (List.idxOf?_eq_none_iff.mp hidx)
  · obtain ⟨line, rest, hline, hframe, -⟩ := idxOf?_eq_some_iff.mp hidx
    exact .inr ⟨line, rest, hline, hframe⟩

/-- A frame splits into an id and a payload exactly when it is a line, a line feed and the
payload, where the line has no line feed and is the UTF-8 text of an id text once trimmed. -/
theorem splitFrame_eq_ok_iff {frame : List UInt8} {n : Nat} {payload : List UInt8} :
    splitFrame frame = .ok (n, payload) ↔
      ∃ line, 10 ∉ line ∧ frame = line ++ 10 :: payload ∧
        ∃ text, line = utf8Bytes text ∧ IsIdText (trim text) n := by
  constructor
  · intro h
    rcases not_mem_or_first_lineFeed frame with hno | ⟨line, rest, hline, rfl⟩
    · simp [splitFrame_of_not_mem hno] at h
    rw [splitFrame_line hline] at h
    rcases hdec : decode line with u | text
    · simp [hdec] at h
    rcases hid : parseId (trim text) with _ | id
    · simp [hdec, hid] at h
    simp only [hdec, hid, Except.ok.injEq, Prod.mk.injEq] at h
    obtain ⟨rfl, rfl⟩ := h
    exact ⟨line, hline, rfl, text, decode_eq_ok_iff.mp hdec, parseId_eq_some_iff.mp hid⟩
  · rintro ⟨line, hline, rfl, text, rfl, hid⟩
    simp [splitFrame_line hline, decode_utf8Bytes, parseId_eq_some_iff.mpr hid]

/-- Why a frame has no readable id line, with the report each reason gets: it has no line feed;
the bytes before its first line feed are no UTF-8 text; or that text, trimmed of blanks, is no
id text, and the report quotes the trimmed text. -/
inductive BadIdLine : List UInt8 → Error → Prop
  | noLineFeed {frame : List UInt8} : 10 ∉ frame →
      BadIdLine frame (.malformedFrame "missing id line")
  | notText {line rest : List UInt8} : 10 ∉ line → (∀ text, line ≠ utf8Bytes text) →
      BadIdLine (line ++ 10 :: rest) (.malformedFrame "id line is not UTF-8")
  | notIdText {text : String} {rest : List UInt8} : 10 ∉ utf8Bytes text →
      (∀ n, ¬ IsIdText (trim text) n) →
      BadIdLine (utf8Bytes text ++ 10 :: rest) (.malformedFrame (trim text))

/-- A frame whose id line is bad is reported as a malformed frame. -/
theorem BadIdLine.malformed {frame : List UInt8} {e : Error} (h : BadIdLine frame e) :
    ∃ detail, e = .malformedFrame detail := by
  cases h <;> exact ⟨_, rfl⟩

/-- A frame fails to split exactly when its id line is bad, and the error says why. -/
theorem splitFrame_eq_error_iff {frame : List UInt8} {e : Error} :
    splitFrame frame = .error e ↔ BadIdLine frame e := by
  constructor
  · intro h
    rcases not_mem_or_first_lineFeed frame with hno | ⟨line, rest, hline, rfl⟩
    · rw [splitFrame_of_not_mem hno, Except.error.injEq] at h
      rw [← h]
      exact .noLineFeed hno
    rw [splitFrame_line hline] at h
    rcases hdec : decode line with u | text
    · simp only [hdec, Except.error.injEq] at h
      rw [← h]
      refine .notText hline fun text htext => ?_
      rw [htext, decode_utf8Bytes] at hdec
      cases hdec
    obtain rfl := decode_eq_ok_iff.mp hdec
    rcases hid : parseId (trim text) with _ | id
    · simp only [hdec, hid, Except.error.injEq] at h
      rw [← h]
      exact .notIdText hline fun n hn => by simp [parseId_eq_some_iff.mpr hn] at hid
    · simp [hdec, hid] at h
  · intro h
    cases h with
    | noLineFeed hno => exact splitFrame_of_not_mem hno
    | @notText line rest hline hbad =>
      obtain ⟨u, hu⟩ : ∃ u, decode line = .error u := by
        rcases hd : decode line with u | text
        · exact ⟨u, rfl⟩
        · exact absurd (decode_eq_ok_iff.mp hd) (hbad text)
      simp [splitFrame_line hline, hu]
    | @notIdText text rest hline hbad =>
      have hid : parseId (trim text) = none := by
        rcases hp : parseId (trim text) with _ | n
        · rfl
        · exact absurd (parseId_eq_some_iff.mp hp) (hbad n)
      simp [splitFrame_line hline, decode_utf8Bytes, hid]

/-- A frame splits at the first line feed into the id its line announces and the payload after
it. The id line of a 64-bit id, followed by any payload, splits into both. A frame splits exactly
when the bytes before its first line feed are UTF-8 text that, trimmed of blanks, is an id text,
and the payload is everything after that line feed. Every other frame is a malformed frame, for
the reason its id line is bad. -/
theorem frames_split_at_their_id_line :
    (∀ id, id < Nat.pow 2 64 → ∀ payload,
      splitFrame (utf8Bytes (idLine id) ++ payload) = .ok (id, payload)) ∧
    (∀ frame n payload, splitFrame frame = .ok (n, payload) ↔
      ∃ line, 10 ∉ line ∧ frame = line ++ 10 :: payload ∧
        ∃ text, line = utf8Bytes text ∧ IsIdText (trim text) n) ∧
    (∀ frame e, splitFrame frame = .error e ↔ BadIdLine frame e) :=
  ⟨fun _ hid payload => splitFrame_idLine hid payload, fun _ _ _ => splitFrame_eq_ok_iff,
    fun _ _ => splitFrame_eq_error_iff⟩

/-- The id line of request 42 and an empty payload block split back into both. -/
theorem id_line_42_splits_off :
    splitFrame (utf8Bytes (idLine 42) ++ [123, 10, 125, 10, 10]) =
      .ok (42, [123, 10, 125, 10, 10]) :=
  frames_split_at_their_id_line.1 42 (by decide) _

end SwiftDevEnv.Wire
