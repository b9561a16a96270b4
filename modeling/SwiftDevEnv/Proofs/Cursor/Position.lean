import Mathlib
import SwiftDevEnv.Cursor.Position
import SwiftDevEnv.Proofs.Text.Utf8

/-!
# Lines and columns of byte offsets

UTF-8 writes every character as one lead byte and then only continuation bytes, so the character
boundaries of a text's bytes are exactly the byte offsets at which its characters start, and
every character has exactly one byte that is not a continuation byte. The line feed is the one
character whose encoding holds the byte 10.

Hence the position of a byte offset is read off the characters before the boundary it backs off
to: the line is the number of line feeds among them and the column the number of characters
after the last of them. Appending characters moves a position strictly forward in the
lexicographic order of (line, column), so positions grow strictly over the boundaries and
monotonically over all offsets. A declaration's range therefore never ends before it starts,
however long the length it reports, as long as the text is shorter than the largest machine
offset.
-/

namespace SwiftDevEnv.Cursor

open SwiftDevEnv.Text SwiftDevEnv.Completion

/-! ## Lead and continuation bytes -/

/-- A byte that is not a continuation byte lies below `0x80` or above `0xBF`. -/
theorem isContinuation_eq_false_iff {b : UInt8} :
    isContinuation b = false ↔ b.toNat < 0x80 ∨ 0xBF < b.toNat := by
  rw [Bool.eq_false_iff, ne_eq, isContinuation_iff]
  omega

/-- A character is encoded as a lead byte followed only by continuation bytes. -/
theorem utf8EncodeChar_eq_lead_cons (c : Char) :
    ∃ lead rest, String.utf8EncodeChar c = lead :: rest ∧ isContinuation lead = false ∧
      ∀ b ∈ rest, isContinuation b = true := by
  have hscalar := toNat_isScalar c
  by_cases h₁ : c.toNat ≤ 0x7f
  · refine ⟨_, [], utf8EncodeChar_of_le_7f h₁, ?_, by simp⟩
    simp only [isContinuation_eq_false_iff, UInt8.toNat_ofNat']
    omega
  by_cases h₂ : c.toNat ≤ 0x7ff
  · refine ⟨_, _, utf8EncodeChar_of_le_7ff (by omega) h₂, ?_, ?_⟩
    · simp only [isContinuation_eq_false_iff, UInt8.toNat_ofNat']
      omega
    · simp only [List.mem_singleton, forall_eq, isContinuation_iff, UInt8.toNat_ofNat']
      omega
  by_cases h₃ : c.toNat ≤ 0xffff
  · refine ⟨_, _, utf8EncodeChar_of_le_ffff (by omega) h₃, ?_, ?_⟩
    · simp only [isContinuation_eq_false_iff, UInt8.toNat_ofNat']
      omega
    · simp only [List.mem_cons, List.not_mem_nil, or_false, forall_eq_or_imp, forall_eq,
        isContinuation_iff, UInt8.toNat_ofNat']
      omega
  · refine ⟨_, _, utf8EncodeChar_of_gt_ffff (by omega), ?_, ?_⟩
    · simp only [isContinuation_eq_false_iff, UInt8.toNat_ofNat']
      omega
    · simp only [List.mem_cons, List.not_mem_nil, or_false, forall_eq_or_imp, forall_eq,
        isContinuation_iff, UInt8.toNat_ofNat']
      omega

/-- Each character's encoding has exactly one byte that is not a continuation byte. -/
theorem countP_lead_utf8EncodeChar (c : Char) :
    (String.utf8EncodeChar c).countP (fun b => !isContinuation b) = 1 := by
  obtain ⟨lead, rest, he, hlead, hrest⟩ := utf8EncodeChar_eq_lead_cons c
  have hnone : rest.countP (fun b => !isContinuation b) = 0 :=
    List.countP_eq_zero.mpr fun b hb => by simp [hrest b hb]
  rw [he, List.countP_cons, hnone, hlead]
  rfl

/-- The byte 10 stands once in the encoding of a line feed and in no other. -/
theorem count_ten_utf8EncodeChar (c : Char) :
    (String.utf8EncodeChar c).count 10 = if c = '\n' then 1 else 0 := by
  split_ifs with h
  · subst h
    rfl
  · exact List.count_eq_zero.mpr fun h10 => h (eq_lineFeed_of_ten_mem h10)

/-! ## The bytes of a list of characters -/

/-- The line feeds of the bytes of characters are the line feeds among the characters. -/
theorem count_ten_flatMap (cs : List Char) :
    (cs.flatMap String.utf8EncodeChar).count 10 = cs.count '\n' := by
  induction cs with
  | nil => rfl
  | cons c cs ih =>
    rw [List.flatMap_cons, List.count_append, ih, count_ten_utf8EncodeChar, List.count_cons]
    by_cases h : c = '\n' <;> simp [h, Nat.add_comm]

/-- The bytes of characters hold one byte that is not a continuation byte per character. -/
theorem countP_lead_flatMap (cs : List Char) :
    (cs.flatMap String.utf8EncodeChar).countP (fun b => !isContinuation b) = cs.length := by
  induction cs with
  | nil => rfl
  | cons c cs ih =>
    rw [List.flatMap_cons, List.countP_append, countP_lead_utf8EncodeChar, ih, List.length_cons,
      Nat.add_comm]

/-- The bytes after the last byte 10 are the encodings of the characters after the last line feed.
The last line is read from the end, so the induction adds characters at the end. -/
theorem lastLine_flatMap (cs : List Char) :
    ((cs.flatMap String.utf8EncodeChar).reverse.takeWhile (· != 10)).reverse =
      (cs.reverse.takeWhile (· != '\n')).reverse.flatMap String.utf8EncodeChar := by
  induction cs using List.reverseRecOn with
  | nil => rfl
  | append_singleton cs c ih =>
    rw [List.flatMap_append, List.flatMap_singleton, List.reverse_append, List.reverse_append,
      List.reverse_singleton, List.singleton_append, List.takeWhile_cons]
    by_cases h : c = '\n'
    · subst h
      rfl
    · have hpass : ∀ b ∈ (String.utf8EncodeChar c).reverse, (b != 10) = true := by
        intro b hb
        have hb10 : b ≠ 10 := fun e => h (eq_lineFeed_of_ten_mem (e ▸ List.mem_reverse.mp hb))
        simpa using hb10
      rw [List.takeWhile_append_of_pos hpass, List.reverse_append, List.reverse_reverse, ih]
      simp [h]

/-- A byte index within a first list is a boundary of a joined list when the byte there
starts a character. -/
theorem isCharBoundary_append_left {l r : List UInt8} {i : Nat} (h : i < l.length) :
    isCharBoundary (l ++ r) i = !isContinuation l[i] := by
  have hne : i ≠ (l ++ r).length := by
    rw [List.length_append]
    omega
  rw [isCharBoundary, if_neg hne, List.getElem?_append_left h, List.getElem?_eq_getElem h]

/-- A byte index past a first list is a boundary of a joined list when it is one of the
second. -/
theorem isCharBoundary_append_right {l r : List UInt8} {i : Nat} (h : l.length ≤ i) :
    isCharBoundary (l ++ r) i = isCharBoundary r (i - l.length) := by
  have hiff : i = l.length + r.length ↔ i - l.length = r.length := by omega
  simp only [isCharBoundary, List.length_append, List.getElem?_append_right h, hiff]

/-- The only boundary of no bytes is zero. -/
theorem isCharBoundary_nil (i : Nat) : isCharBoundary [] i = decide (i = 0) := by
  cases i <;> rfl

/-- Within a character's encoding, whatever follows it, only the first byte is a boundary. -/
theorem isCharBoundary_utf8EncodeChar_append (c : Char) (r : List UInt8) {i : Nat}
    (h : i < (String.utf8EncodeChar c).length) :
    isCharBoundary (String.utf8EncodeChar c ++ r) i = decide (i = 0) := by
  obtain ⟨lead, rest, he, hlead, hrest⟩ := utf8EncodeChar_eq_lead_cons c
  rw [isCharBoundary_append_left h]
  cases i with
  | zero => simp [he, hlead]
  | succ i =>
    have hcont : isContinuation (String.utf8EncodeChar c)[i + 1] = true := by
      simp only [he, List.getElem_cons_succ]
      exact hrest _ (List.getElem_mem _)
    simp [hcont]

/-- The byte lengths of the prefixes of `c :: cs` are zero and the length of the encoding of `c`
added to the byte length of each prefix of `cs`. -/
theorem exists_offset_cons_iff (c : Char) (cs : List Char) (i : Nat) :
    (∃ k ≤ (c :: cs).length, i = (((c :: cs).take k).flatMap String.utf8EncodeChar).length) ↔
      i = 0 ∨ ∃ k ≤ cs.length,
        i = (String.utf8EncodeChar c).length + ((cs.take k).flatMap String.utf8EncodeChar).length := by
  constructor
  · rintro ⟨k, hk, rfl⟩
    cases k with
    | zero => simp
    | succ k => exact .inr ⟨k, by simpa using hk, by simp⟩
  · rintro (rfl | ⟨k, hk, rfl⟩)
    · exact ⟨0, Nat.zero_le _, by simp⟩
    · exact ⟨k + 1, by simpa using hk, by simp⟩

/-- The character boundaries of the bytes of a list of characters are the byte lengths of its
prefixes. -/
theorem isCharBoundary_flatMap_iff (cs : List Char) (i : Nat) :
    isCharBoundary (cs.flatMap String.utf8EncodeChar) i = true ↔
      ∃ k ≤ cs.length, i = ((cs.take k).flatMap String.utf8EncodeChar).length := by
  induction cs generalizing i with
  | nil => simp [isCharBoundary_nil]
  | cons c cs ih =>
    have hpos : 0 < (String.utf8EncodeChar c).length :=
      List.length_pos_iff.mpr String.utf8EncodeChar_ne_nil
    rw [exists_offset_cons_iff, List.flatMap_cons]
    rcases Nat.lt_or_ge i (String.utf8EncodeChar c).length with hi | hi
    · -- within the encoding of `c` only its lead byte starts a character
      rw [isCharBoundary_utf8EncodeChar_append c _ hi, decide_eq_true_iff]
      constructor
      · exact .inl
      · rintro (h | ⟨k, -, rfl⟩)
        · exact h
        · omega
    · -- past it, the boundaries are those of the rest, shifted by the encoding of `c`
      rw [isCharBoundary_append_right hi, ih]
      constructor
      · rintro ⟨k, hk, hik⟩
        exact .inr ⟨k, hk, by omega⟩
      · rintro (rfl | ⟨k, hk, rfl⟩)
        · omega
        · exact ⟨k, hk, by omega⟩

/-- The bytes of characters, cut at the byte length of a prefix, are the bytes of the
prefix. -/
theorem take_flatMap_eq_flatMap_take (cs : List Char) (k : Nat) :
    (cs.flatMap String.utf8EncodeChar).take ((cs.take k).flatMap String.utf8EncodeChar).length =
      (cs.take k).flatMap String.utf8EncodeChar := by
  have hsplit : cs.flatMap String.utf8EncodeChar =
      (cs.take k).flatMap String.utf8EncodeChar ++ (cs.drop k).flatMap String.utf8EncodeChar := by
    rw [← List.flatMap_append, List.take_append_drop]
  rw [hsplit]
  exact List.take_left' rfl

/-- A longer prefix is a shorter one followed by the characters between them. -/
theorem take_eq_take_append {cs : List Char} {k₁ k₂ : Nat} (h : k₁ ≤ k₂) :
    cs.take k₂ = cs.take k₁ ++ (cs.drop k₁).take (k₂ - k₁) := by
  rw [← List.take_add, Nat.add_sub_cancel' h]

/-- A longer prefix of characters has at least as many bytes. -/
theorem length_flatMap_take_mono (cs : List Char) {k₁ k₂ : Nat} (h : k₁ ≤ k₂) :
    ((cs.take k₁).flatMap String.utf8EncodeChar).length ≤
      ((cs.take k₂).flatMap String.utf8EncodeChar).length := by
  rw [take_eq_take_append h, List.flatMap_append, List.length_append]
  omega

/-! ## Backing off to a boundary -/

section BackOff

variable {bytes : List UInt8}

theorem boundaryAtOrBelow_le (bytes : List UInt8) (i : Nat) : boundaryAtOrBelow bytes i ≤ i := by
  fun_induction boundaryAtOrBelow bytes i with
  | case1 => rfl
  | case2 i _ => rfl
  | case3 i _ ih => omega

/-- The back-off stops at a boundary: at the first one going down, or at zero. -/
theorem isCharBoundary_boundaryAtOrBelow (h0 : isCharBoundary bytes 0 = true) (i : Nat) :
    isCharBoundary bytes (boundaryAtOrBelow bytes i) = true := by
  fun_induction boundaryAtOrBelow bytes i with
  | case1 => exact h0
  | case2 i h => exact h
  | case3 i _ ih => exact ih

/-- No boundary lies between the back-off's result and its start. -/
theorem le_boundaryAtOrBelow {i j : Nat} (hj : isCharBoundary bytes j = true) (hji : j ≤ i) :
    j ≤ boundaryAtOrBelow bytes i := by
  fun_induction boundaryAtOrBelow bytes i with
  | case1 => omega
  | case2 i _ => exact hji
  | case3 i h ih =>
    have hne : j ≠ i + 1 := by
      rintro rfl
      exact h hj
    exact ih (by omega)

/-- The back-off gives the greatest boundary at or below its start. -/
theorem boundaryAtOrBelow_isGreatest (h0 : isCharBoundary bytes 0 = true) (i : Nat) :
    IsGreatest {b | isCharBoundary bytes b = true ∧ b ≤ i} (boundaryAtOrBelow bytes i) :=
  ⟨⟨isCharBoundary_boundaryAtOrBelow h0 i, boundaryAtOrBelow_le bytes i⟩,
    fun _ hb => le_boundaryAtOrBelow hb.1 hb.2⟩

theorem boundaryAtOrBelow_of_isCharBoundary {i : Nat} (h : isCharBoundary bytes i = true) :
    boundaryAtOrBelow bytes i = i :=
  le_antisymm (boundaryAtOrBelow_le bytes i) (le_boundaryAtOrBelow h le_rfl)

theorem boundaryAtOrBelow_mono (h0 : isCharBoundary bytes 0 = true) {i j : Nat} (h : i ≤ j) :
    boundaryAtOrBelow bytes i ≤ boundaryAtOrBelow bytes j :=
  le_boundaryAtOrBelow (isCharBoundary_boundaryAtOrBelow h0 i) ((boundaryAtOrBelow_le bytes i).trans h)

end BackOff

/-! ## Positions after characters -/

/-- The line and column reached after reading bytes: the line feeds among them, and the
characters started after the last of them. -/
def positionAfterBytes (bytes : List UInt8) : Nat × Nat :=
  (bytes.count 10, (bytes.reverse.takeWhile (· != 10)).reverse.countP (fun x => !isContinuation x))

/-- The line and column reached after reading characters: the line feeds among them, and the
characters after the last of them. -/
def positionAfter (cs : List Char) : Nat × Nat :=
  (cs.count '\n', (cs.reverse.takeWhile (· != '\n')).length)

/-- The byte offset at which character `k` of a text starts: the text's length in bytes for
`k` past its end. -/
def charOffset (text : String) (k : Nat) : Nat :=
  (utf8Bytes (String.ofList (text.toList.take k))).length

theorem positionAt_eq (text : String) (offset : Nat) :
    positionAt text offset = positionAfterBytes ((utf8Bytes text).take
      (boundaryAtOrBelow (utf8Bytes text) (min offset (utf8Bytes text).length))) :=
  rfl

theorem positionAfterBytes_flatMap (cs : List Char) :
    positionAfterBytes (cs.flatMap String.utf8EncodeChar) = positionAfter cs := by
  rw [positionAfterBytes, count_ten_flatMap, lastLine_flatMap, countP_lead_flatMap,
    List.length_reverse, positionAfter]

theorem charOffset_eq (text : String) (k : Nat) :
    charOffset text k = ((text.toList.take k).flatMap String.utf8EncodeChar).length := by
  rw [charOffset, utf8Bytes_eq_flatMap, String.toList_ofList]

/-- Reading characters after a line feed moves to a later line. -/
theorem positionAfter_append_fst (l m : List Char) :
    (positionAfter (l ++ m)).1 = (positionAfter l).1 + m.count '\n' := by
  simp [positionAfter, List.count_append]

/-- Reading characters that hold no line feed stays on the line and moves the column by their
number. -/
theorem positionAfter_append_of_not_mem {l m : List Char} (h : '\n' ∉ m) :
    positionAfter (l ++ m) = ((positionAfter l).1, (positionAfter l).2 + m.length) := by
  have hpass : ∀ c ∈ m.reverse, (c != '\n') = true := by
    intro c hc
    have hne : c ≠ '\n' := fun e => h (e ▸ List.mem_reverse.mp hc)
    simpa using hne
  have hcount : m.count '\n' = 0 := List.count_eq_zero.mpr h
  simp only [positionAfter, List.count_append, hcount, List.reverse_append,
    List.takeWhile_append_of_pos hpass, List.length_append, List.length_reverse]
  exact Prod.ext rfl (Nat.add_comm _ _)

/-- Reading at least one more character moves strictly forward in (line, column) order. -/
theorem positionAfter_lt_append (l : List Char) {m : List Char} (hm : m ≠ []) :
    toLex (positionAfter l) < toLex (positionAfter (l ++ m)) := by
  rw [Prod.Lex.toLex_lt_toLex]
  by_cases h : '\n' ∈ m
  · left
    rw [positionAfter_append_fst]
    have : 0 < m.count '\n' := List.count_pos_iff.mpr h
    omega
  · right
    rw [positionAfter_append_of_not_mem h]
    have : 0 < m.length := List.length_pos_iff.mpr hm
    exact ⟨rfl, by simp only; omega⟩

/-! ## Positions of a text -/

section Text

variable (text : String)

/-- Zero is a character boundary of every text. -/
theorem isCharBoundary_zero : isCharBoundary (utf8Bytes text) 0 = true := by
  rw [utf8Bytes_eq_flatMap, isCharBoundary_flatMap_iff]
  exact ⟨0, Nat.zero_le _, by simp⟩

/-- The character boundaries of a text are the offsets at which its characters start, and its
end. -/
theorem isCharBoundary_iff (b : Nat) :
    isCharBoundary (utf8Bytes text) b = true ↔ ∃ k ≤ text.length, b = charOffset text k := by
  simp only [utf8Bytes_eq_flatMap, isCharBoundary_flatMap_iff, charOffset_eq, String.length_toList]

/-- The position of the offset at which character `k` starts counts the line feeds before it
and the characters since the last of them. -/
theorem positionAt_charOffset (k : Nat) :
    positionAt text (charOffset text k) = positionAfter (text.toList.take k) := by
  have hb : isCharBoundary (utf8Bytes text) (charOffset text k) = true := by
    rw [utf8Bytes_eq_flatMap, isCharBoundary_flatMap_iff, charOffset_eq]
    exact ⟨min k text.toList.length, Nat.min_le_right _ _, by rw [← List.take_eq_take_min]⟩
  have hle : charOffset text k ≤ (utf8Bytes text).length := by
    have hcut := congrArg List.length (take_flatMap_eq_flatMap_take text.toList k)
    rw [List.length_take] at hcut
    rw [charOffset_eq, utf8Bytes_eq_flatMap]
    omega
  rw [positionAt_eq, Nat.min_eq_left hle, boundaryAtOrBelow_of_isCharBoundary hb, charOffset_eq,
    utf8Bytes_eq_flatMap, take_flatMap_eq_flatMap_take, positionAfterBytes_flatMap]

/-- An offset has the position of its clamp to the end of the text. -/
theorem positionAt_min (o : Nat) :
    positionAt text (min o (utf8Bytes text).length) = positionAt text o := by
  rw [positionAt_eq, positionAt_eq, min_assoc, min_self]

/-- An offset has the position of the boundary it backs off to. -/
theorem positionAt_boundaryAtOrBelow (o : Nat) :
    positionAt text (boundaryAtOrBelow (utf8Bytes text) (min o (utf8Bytes text).length)) =
      positionAt text o := by
  have hbnd := isCharBoundary_boundaryAtOrBelow (isCharBoundary_zero text)
    (min o (utf8Bytes text).length)
  have hle : boundaryAtOrBelow (utf8Bytes text) (min o (utf8Bytes text).length) ≤
      (utf8Bytes text).length :=
    (boundaryAtOrBelow_le _ _).trans (Nat.min_le_right _ _)
  rw [positionAt_eq text (boundaryAtOrBelow _ _), Nat.min_eq_left hle,
    boundaryAtOrBelow_of_isCharBoundary hbnd, positionAt_eq]

/-- Every offset has the position of the greatest character boundary at or below it within the
text. -/
theorem positionAt_eq_of_isGreatest {o b : Nat}
    (hb : IsGreatest
      {b | isCharBoundary (utf8Bytes text) b = true ∧ b ≤ min o (utf8Bytes text).length} b) :
    positionAt text o = positionAt text b := by
  have hback := boundaryAtOrBelow_isGreatest (isCharBoundary_zero text)
    (min o (utf8Bytes text).length)
  rw [← positionAt_boundaryAtOrBelow text o, hback.unique hb]

example : positionAt "aé\nb" 2 = (0, 1) := by decide +kernel

/-- Line and column never exceed the length of the text in bytes. -/
theorem positionAt_le_length (o : Nat) :
    (positionAt text o).1 ≤ (utf8Bytes text).length ∧
      (positionAt text o).2 ≤ (utf8Bytes text).length := by
  rw [positionAt_eq, positionAfterBytes]
  have htake := List.length_take_le'
    (boundaryAtOrBelow (utf8Bytes text) (min o (utf8Bytes text).length)) (utf8Bytes text)
  refine ⟨(List.count_le_length ..).trans htake, ?_⟩
  refine (List.countP_le_length ..).trans ?_
  rw [List.length_reverse]
  refine (List.takeWhile_sublist _).length_le.trans ?_
  rw [List.length_reverse]
  exact htake

/-- Positions grow strictly in (line, column) order over the character boundaries. -/
theorem positionAt_strictMonoOn :
    StrictMonoOn (fun b => toLex (positionAt text b))
      {b | isCharBoundary (utf8Bytes text) b = true} := by
  intro b₁ hb₁ b₂ hb₂ hlt
  obtain ⟨k₁, -, rfl⟩ := (isCharBoundary_iff text b₁).mp hb₁
  obtain ⟨k₂, hk₂, rfl⟩ := (isCharBoundary_iff text b₂).mp hb₂
  have hk : k₁ < k₂ := by
    by_contra hge
    have hbytes := length_flatMap_take_mono text.toList (Nat.le_of_not_lt hge)
    rw [charOffset_eq, charOffset_eq] at hlt
    omega
  have hbetween : (text.toList.drop k₁).take (k₂ - k₁) ≠ [] := by
    rw [← List.length_pos_iff, List.length_take, List.length_drop, String.length_toList]
    omega
  show toLex (positionAt text (charOffset text k₁)) < toLex (positionAt text (charOffset text k₂))
  rw [positionAt_charOffset, positionAt_charOffset, take_eq_take_append hk.le]
  exact positionAfter_lt_append _ hbetween

/-- Positions never go back as the offset grows. Each offset has the position of the boundary it
backs off to, and these boundaries are ordered. -/
theorem positionAt_monotone : Monotone (fun o => toLex (positionAt text o)) := by
  intro o₁ o₂ hle
  have h0 := isCharBoundary_zero text
  show toLex (positionAt text o₁) ≤ toLex (positionAt text o₂)
  rw [← positionAt_boundaryAtOrBelow text o₁, ← positionAt_boundaryAtOrBelow text o₂]
  have hclamp : min o₁ (utf8Bytes text).length ≤ min o₂ (utf8Bytes text).length :=
    min_le_min_right _ hle
  rcases (boundaryAtOrBelow_mono h0 hclamp).lt_or_eq with hlt | heq
  · exact (positionAt_strictMonoOn text (isCharBoundary_boundaryAtOrBelow h0 _)
      (isCharBoundary_boundaryAtOrBelow h0 _) hlt).le
  · rw [heq]

/-- A declaration's range never ends before it starts, whatever the length it reports, in a text no
longer than the largest machine offset. An end cut off at the largest machine offset still lies at
or past the text's end when the start does. -/
theorem rangeIn_start_le_end (h : (utf8Bytes text).length ≤ offsetLimit) (loc : Location) :
    toLex (loc.rangeIn text).1 ≤ toLex (loc.rangeIn text).2 := by
  have hclamp : min loc.offset (utf8Bytes text).length ≤
      min (min (loc.offset + loc.length) offsetLimit) (utf8Bytes text).length := by
    omega
  rw [Location.rangeIn, ← positionAt_min text loc.offset,
    ← positionAt_min text (min (loc.offset + loc.length) offsetLimit)]
  exact positionAt_monotone text hclamp

end Text

/-- Byte offsets become lines and columns consistently. The back-off from an offset stops at the
greatest character boundary at or below it, zero being one; the boundaries are the offsets at
which characters start; every offset has the position of the greatest boundary at or below it
within the text, and there the line counts the line feeds before it and the column the
characters since the last of them. Positions grow strictly in (line, column) order over the
boundaries and never go back as the offset grows, so a declaration's range never ends before it
starts, and neither line nor column exceeds the length of the text in bytes. -/
theorem byte_offsets_become_lines_and_columns (text : String) :
    (isCharBoundary (utf8Bytes text) 0 = true ∧
      ∀ i, IsGreatest {b | isCharBoundary (utf8Bytes text) b = true ∧ b ≤ i}
        (boundaryAtOrBelow (utf8Bytes text) i)) ∧
    (∀ b, isCharBoundary (utf8Bytes text) b = true ↔ ∃ k ≤ text.length, b = charOffset text k) ∧
    (∀ o b, IsGreatest
        {b | isCharBoundary (utf8Bytes text) b = true ∧ b ≤ min o (utf8Bytes text).length} b →
      positionAt text o = positionAt text b) ∧
    (∀ k, positionAt text (charOffset text k) = positionAfter (text.toList.take k)) ∧
    StrictMonoOn (fun b => toLex (positionAt text b))
      {b | isCharBoundary (utf8Bytes text) b = true} ∧
    Monotone (fun o => toLex (positionAt text o)) ∧
    ((utf8Bytes text).length ≤ offsetLimit →
      ∀ loc : Location, toLex (loc.rangeIn text).1 ≤ toLex (loc.rangeIn text).2) ∧
    ∀ o, (positionAt text o).1 ≤ (utf8Bytes text).length ∧
      (positionAt text o).2 ≤ (utf8Bytes text).length :=
  ⟨⟨isCharBoundary_zero text, boundaryAtOrBelow_isGreatest (isCharBoundary_zero text)⟩,
    isCharBoundary_iff text, fun _ _ => positionAt_eq_of_isGreatest text,
    positionAt_charOffset text, positionAt_strictMonoOn text, positionAt_monotone text,
    rangeIn_start_le_end text, positionAt_le_length text⟩

/-- An offset inside the two bytes of `é` backs off to where `é` starts, and a range whose length
is the largest machine offset still ends after it starts. -/
theorem offset_inside_a_character_backs_off :
    IsGreatest {b | isCharBoundary (utf8Bytes "aé\nb") b = true ∧
        b ≤ min 2 (utf8Bytes "aé\nb").length} 1 ∧
      positionAt "aé\nb" 2 = positionAt "aé\nb" 1 ∧
      (utf8Bytes "aé\nb").length ≤ offsetLimit ∧
      toLex (Location.rangeIn ⟨"f", 4, offsetLimit⟩ "aé\nb").1 ≤
        toLex (Location.rangeIn ⟨"f", 4, offsetLimit⟩ "aé\nb").2 := by
  have hlen : (utf8Bytes "aé\nb").length = 5 := by decide +kernel
  have hgreatest : IsGreatest {b | isCharBoundary (utf8Bytes "aé\nb") b = true ∧
      b ≤ min 2 (utf8Bytes "aé\nb").length} 1 := by
    refine ⟨⟨by decide +kernel, by rw [hlen]; decide⟩, ?_⟩
    rintro b ⟨hb, hle⟩
    have hle2 : b ≤ 2 := by
      rw [hlen] at hle
      omega
    interval_cases b
    · exact Nat.zero_le 1
    · exact le_rfl
    · exact absurd hb (by decide +kernel)
  have hlimit : (utf8Bytes "aé\nb").length ≤ offsetLimit := by decide +kernel
  obtain ⟨-, -, hback, -, -, -, hrange, -⟩ := byte_offsets_become_lines_and_columns "aé\nb"
  exact ⟨hgreatest, hback 2 1 hgreatest, hlimit, hrange hlimit _⟩

end SwiftDevEnv.Cursor
