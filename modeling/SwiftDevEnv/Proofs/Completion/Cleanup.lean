import Mathlib
import SwiftDevEnv.Proofs.Cursor.Position

/-!
# Cleaning up text typed before a function completion

When a function is completed, the text just typed before the cursor that the inserted snippet
repeats is removed: the last `func ` (replaced by nothing) and the last `..` (replaced by `.`).
Each is searched in a short window before the cursor, `max (2·|sub| - 1) 3` bytes wide and
widened to a character boundary, and nothing is proposed when the cursor itself is inside a
character.

The search is first described without the window: `lastOccurrence` finds the start of the last
occurrence of a byte pattern lying between two offsets, and is proved to find exactly the
`IsLastOccurrence`. A cleanup is then that occurrence, taken from the window start to the
clamped cursor. For a pattern of ASCII bytes the occurrence starts and ends on character
boundaries, since a byte below `0x80` is a whole character; and the two patterns share no byte,
so their occurrences never overlap and both edits can be applied.
-/

namespace SwiftDevEnv.Completion

open SwiftDevEnv.Text SwiftDevEnv.Cursor

/-! ## The last candidate of a search -/

/-- The last number below `n` that passes a test is the one that passes it with no later number
below `n` passing. -/
theorem getLast?_filter_range_eq_some_iff {p : Nat → Bool} {n i : Nat} :
    ((List.range n).filter p).getLast? = some i ↔
      i < n ∧ p i = true ∧ ∀ j, i < j → j < n → p j = false := by
  induction n with
  | zero => simp
  | succ n ih =>
    rw [List.range_succ, List.filter_append, List.getLast?_append]
    by_cases hn : p n = true
    · -- the last candidate passes, so it is the answer
      simp only [List.filter_cons, hn, if_true, List.filter_nil, List.getLast?_singleton,
        Option.some_or, Option.some.injEq]
      constructor
      · rintro rfl
        exact ⟨by omega, hn, fun j hj hj' => by omega⟩
      · rintro ⟨hi, hpi, hlast⟩
        by_contra hne
        have := hlast n (by omega) (by omega)
        simp_all
    · -- it fails, so the answer is among the earlier candidates
      simp only [List.filter_cons, hn, Bool.false_eq_true, if_false, List.filter_nil,
        List.getLast?_nil, Option.none_or, ih]
      constructor
      · rintro ⟨hi, hpi, hlast⟩
        refine ⟨by omega, hpi, fun j hj hj' => ?_⟩
        rcases Nat.lt_or_ge j n with h | h
        · exact hlast j hj h
        · simpa [show j = n by omega] using hn
      · rintro ⟨hi, hpi, hlast⟩
        have hin : i ≠ n := by
          rintro rfl
          exact hn hpi
        exact ⟨by omega, hpi, fun j hj hj' => hlast j hj (by omega)⟩

/-- A pattern starts a part of a list cut at `o` exactly when it starts there in the whole list
and ends by `o`. -/
theorem isPrefixOf_drop_take_iff {sub bytes : List UInt8} (hsub : sub ≠ []) (o k : Nat) :
    sub.isPrefixOf ((bytes.take o).drop k) = true ↔ sub <+: bytes.drop k ∧ k + sub.length ≤ o := by
  have hpos : 0 < sub.length := List.length_pos_iff.mpr hsub
  rw [List.isPrefixOf_iff_prefix, List.drop_take, List.prefix_take_iff]
  constructor
  · rintro ⟨h, hle⟩
    exact ⟨h, by omega⟩
  · rintro ⟨h, hle⟩
    exact ⟨h, by omega⟩

/-! ## The last occurrence of a pattern between two offsets -/

/-- The last occurrence of `sub` lying between byte `lo` and byte `hi` starts at byte `i`. -/
structure IsLastOccurrence (bytes sub : List UInt8) (lo hi i : Nat) : Prop where
  lo_le : lo ≤ i
  end_le : i + sub.length ≤ hi
  occurs : sub <+: bytes.drop i
  last : ∀ j, i < j → j + sub.length ≤ hi → ¬ sub <+: bytes.drop j

/-- The search of the cleanup: the start of the last occurrence of `sub` in the bytes from `lo`
up to `hi`, found by testing every position of that part. -/
def lastOccurrence (bytes sub : List UInt8) (lo hi : Nat) : Option Nat :=
  let piece := (bytes.take hi).drop lo
  (((List.range (piece.length + 1)).filter (fun i => sub.isPrefixOf (piece.drop i))).getLast?).map
    (lo + ·)

section Search

variable {bytes sub : List UInt8} {lo hi : Nat}

/-- The search finds exactly the last occurrence. -/
theorem lastOccurrence_eq_some_iff (hsub : sub ≠ []) (hlo : lo ≤ hi) (hhi : hi ≤ bytes.length)
    (i : Nat) : lastOccurrence bytes sub lo hi = some i ↔ IsLastOccurrence bytes sub lo hi i := by
  have hpos : 0 < sub.length := List.length_pos_iff.mpr hsub
  have hlen : ((bytes.take hi).drop lo).length = hi - lo := by simp; omega
  simp only [lastOccurrence, Option.map_eq_some_iff, getLast?_filter_range_eq_some_iff, hlen,
    List.drop_drop, isPrefixOf_drop_take_iff hsub, Bool.eq_false_iff, ne_eq]
  constructor
  · -- a candidate `k` of the part is the position `lo + k` of the bytes
    rintro ⟨k, ⟨-, ⟨hocc, hend⟩, hlast⟩, rfl⟩
    refine ⟨by omega, hend, hocc, fun j hj hjend hjocc => ?_⟩
    have := hlast (j - lo) (by omega) (by omega)
    rw [show lo + (j - lo) = j by omega] at this
    exact this ⟨hjocc, hjend⟩
  · rintro ⟨hlo_le, hend, hocc, hlast⟩
    refine ⟨i - lo, ⟨by omega, ?_, fun j hj hjn ⟨hjocc, hjend⟩ => ?_⟩, by omega⟩
    · rw [Nat.add_sub_cancel' hlo_le]
      exact ⟨hocc, hend⟩
    · exact hlast (lo + j) (by omega) hjend hjocc

end Search

/-! ## The cleanup of one pattern -/

/-- The cursor of an offset, clamped to the end of the text. -/
def clampedOffset (text : String) (offset : Nat) : Nat := min offset (utf8Bytes text).length

/-- Where the search for a recently typed `sub` starts: `max (2·|sub| - 1) 3` bytes before the
cursor `o`, backed off to a character boundary. -/
def windowStart (bytes sub : List UInt8) (o : Nat) : Nat :=
  boundaryAtOrBelow bytes (o - max (2 * sub.length - 1) 3)

theorem windowStart_le (bytes sub : List UInt8) (o : Nat) : windowStart bytes sub o ≤ o :=
  (boundaryAtOrBelow_le _ _).trans (Nat.sub_le _ _)

/-- The window starts at the greatest character boundary at or below its nominal start. -/
theorem windowStart_isGreatest (text : String) (sub : List UInt8) (o : Nat) :
    IsGreatest {b | isCharBoundary (utf8Bytes text) b = true ∧ b ≤ o - max (2 * sub.length - 1) 3}
      (windowStart (utf8Bytes text) sub o) :=
  boundaryAtOrBelow_isGreatest (isCharBoundary_zero text) _

/-- The cleanup of `sub` in a text, once the cursor is on a boundary: the last occurrence in the
window, replaced by `rep`. -/
theorem removeRecent_eq (text sub rep : String) (offset : Nat) :
    removeRecent text offset sub rep =
      if isCharBoundary (utf8Bytes text) (clampedOffset text offset) = true then
        (lastOccurrence (utf8Bytes text) (utf8Bytes sub)
            (windowStart (utf8Bytes text) (utf8Bytes sub) (clampedOffset text offset))
            (clampedOffset text offset)).map
          fun i => ⟨i, i + (utf8Bytes sub).length, rep⟩
      else none := by
  unfold removeRecent
  split <;> simp_all [lastOccurrence, Option.map_map, Function.comp_def, clampedOffset, windowStart]

/-- The edit `e` is the cleanup of `sub` by `rep` in a text at an offset: the clamped cursor is
on a character boundary, and `e` replaces by `rep` the last occurrence of `sub` that lies between
the window start and the cursor. -/
def IsRecentFix (text : String) (offset : Nat) (sub rep : String) (e : OffsetEdit) : Prop :=
  isCharBoundary (utf8Bytes text) (clampedOffset text offset) = true ∧
    IsLastOccurrence (utf8Bytes text) (utf8Bytes sub)
      (windowStart (utf8Bytes text) (utf8Bytes sub) (clampedOffset text offset))
      (clampedOffset text offset) e.start ∧
    e = ⟨e.start, e.start + (utf8Bytes sub).length, rep⟩

/-- A cleanup of a non-empty `sub` is found exactly when the cursor is on a boundary and `sub`
occurs in the window, and it then removes the last such occurrence. -/
theorem removeRecent_eq_some_iff {text sub : String} (hsub : utf8Bytes sub ≠ []) (offset : Nat)
    (rep : String) (e : OffsetEdit) :
    removeRecent text offset sub rep = some e ↔ IsRecentFix text offset sub rep e := by
  have hlo := windowStart_le (utf8Bytes text) (utf8Bytes sub) (clampedOffset text offset)
  have ho : clampedOffset text offset ≤ (utf8Bytes text).length := min_le_right _ _
  rw [removeRecent_eq, IsRecentFix]
  split
  · rename_i hb
    simp only [Option.map_eq_some_iff, lastOccurrence_eq_some_iff hsub hlo ho, hb, true_and]
    constructor
    · rintro ⟨i, hi, rfl⟩
      exact ⟨hi, rfl⟩
    · rintro ⟨hi, he⟩
      exact ⟨e.start, hi, he.symm⟩
  · simp_all

/-- No cleanup is found while the cursor is inside a character. -/
theorem removeRecent_of_not_isCharBoundary {text : String} {offset : Nat}
    (h : isCharBoundary (utf8Bytes text) (clampedOffset text offset) = false) (sub rep : String) :
    removeRecent text offset sub rep = none := by
  rw [removeRecent_eq, if_neg (by simp [h])]

/-! ## Boundaries of an ASCII occurrence -/

/-- Zero is a character boundary of the bytes of any characters. -/
theorem isCharBoundary_flatMap_zero (cs : List Char) :
    isCharBoundary (cs.flatMap String.utf8EncodeChar) 0 = true :=
  (isCharBoundary_flatMap_iff cs 0).mpr ⟨0, Nat.zero_le _, by simp⟩

/-- A byte below `0x80` starts a character. -/
theorem isCharBoundary_of_ascii {bytes : List UInt8} {i : Nat} (hi : i < bytes.length)
    (h : bytes[i].toNat < 0x80) : isCharBoundary bytes i = true := by
  have hcont : isContinuation bytes[i] = false := by
    rw [Bool.eq_false_iff, ne_eq, isContinuation_iff]
    omega
  simp [isCharBoundary, Nat.ne_of_lt hi, List.getElem?_eq_getElem hi, hcont]

/-- In the bytes of characters, a byte below `0x80` is a whole character, so the next byte starts
one. -/
theorem isCharBoundary_succ_of_ascii (cs : List Char) {i : Nat}
    (hi : i < (cs.flatMap String.utf8EncodeChar).length)
    (h : (cs.flatMap String.utf8EncodeChar)[i].toNat < 0x80) :
    isCharBoundary (cs.flatMap String.utf8EncodeChar) (i + 1) = true := by
  induction cs generalizing i with
  | nil => simp at hi
  | cons c cs ih =>
    simp only [List.flatMap_cons] at hi h ⊢
    rcases Nat.lt_or_ge i (String.utf8EncodeChar c).length with hc | hc
    · -- the byte lies in the encoding of `c`, which is then that byte alone
      rw [List.getElem_append_left hc] at h
      rcases utf8EncodeChar_ascii_or_high c with ⟨-, he⟩ | hhigh
      · have hlen : (String.utf8EncodeChar c).length = 1 := by simp [he]
        rw [isCharBoundary_append_right (by omega), show i + 1 - _ = 0 by omega]
        exact isCharBoundary_flatMap_zero cs
      · exact absurd (hhigh _ (List.getElem_mem hc)) (by omega)
    · rw [List.getElem_append_right hc] at h
      have hshift : i + 1 - (String.utf8EncodeChar c).length =
          i - (String.utf8EncodeChar c).length + 1 := by omega
      rw [isCharBoundary_append_right (by omega), hshift]
      exact ih (by simp only [List.length_append] at hi; omega) h

/-- An occurrence of a non-empty pattern of ASCII bytes in a text starts and ends on character
boundaries. Each byte of the occurrence is a whole character. -/
theorem isCharBoundary_ascii_occurrence {text : String} {sub : List UInt8} {i : Nat}
    (hsub : sub ≠ []) (hascii : ∀ b ∈ sub, b.toNat < 0x80) (hocc : sub <+: (utf8Bytes text).drop i) :
    isCharBoundary (utf8Bytes text) i = true ∧
      isCharBoundary (utf8Bytes text) (i + sub.length) = true := by
  have hpos : 0 < sub.length := List.length_pos_iff.mpr hsub
  have hlen : sub.length ≤ (utf8Bytes text).length - i := by
    simpa using hocc.length_le
  have hbyte : ∀ k (hik : i + k < (utf8Bytes text).length), k < sub.length →
      ((utf8Bytes text)[i + k]).toNat < 0x80 := by
    intro k hik hk
    have := hocc.getElem hk
    rw [List.getElem_drop] at this
    exact this ▸ hascii _ (List.getElem_mem hk)
  refine ⟨isCharBoundary_of_ascii (by omega) (by simpa using hbyte 0 (by omega) hpos), ?_⟩
  have hlast := hbyte (sub.length - 1) (by omega) (by omega)
  simp only [utf8Bytes_eq_flatMap] at hlast ⊢
  rw [show i + sub.length = i + (sub.length - 1) + 1 by omega]
  exact isCharBoundary_succ_of_ascii _ _ hlast

/-! ## Both cleanups -/

/-- Two occurrences of non-empty patterns with no byte in common do not overlap. The two orders are
mirror images; when `a` starts first, the first byte of `b` would lie inside the occurrence of `a`.
-/
theorem occurrences_apart {α : Type} {a b l : List α} {i j : Nat} (hab : ∀ x ∈ a, x ∉ b)
    (ha0 : a ≠ []) (hb0 : b ≠ []) (ha : a <+: l.drop i) (hb : b <+: l.drop j) :
    i + a.length ≤ j ∨ j + b.length ≤ i := by
  wlog hij : i ≤ j generalizing a b i j
  · exact (this (fun x hxb hxa => hab x hxa hxb) hb0 ha0 hb ha (by omega)).symm
  by_contra hover
  have hla := ha.length_le
  have hbpos := List.length_pos_iff.mpr hb0
  simp only [List.length_drop] at hla
  have hja : j - i < a.length := by omega
  have hjl : j < l.length := by omega
  have h1 : a[j - i] = l[j] := by
    simp only [ha.getElem hja, List.getElem_drop]
    congr 1
    omega
  have h2 : b[0] = l[j] := by
    simp only [hb.getElem hbpos, List.getElem_drop, Nat.add_zero]
  exact hab _ (List.getElem_mem hja) (h1 ▸ h2 ▸ List.getElem_mem hbpos)

/-- A cleanup of a non-empty ASCII pattern removes bytes that start and end on character
boundaries, at or before the clamped cursor. -/
theorem IsRecentFix.bounds {text sub rep : String} {offset : Nat} {e : OffsetEdit}
    (h : IsRecentFix text offset sub rep e) (hsub : utf8Bytes sub ≠ [])
    (hascii : ∀ b ∈ utf8Bytes sub, b.toNat < 0x80) :
    e.start < e.stop ∧ e.stop ≤ clampedOffset text offset ∧
      isCharBoundary (utf8Bytes text) e.start = true ∧
      isCharBoundary (utf8Bytes text) e.stop = true := by
  obtain ⟨-, hlast, he⟩ := h
  have hpos : 0 < (utf8Bytes sub).length := List.length_pos_iff.mpr hsub
  have hstop : e.stop = e.start + (utf8Bytes sub).length := by rw [he]
  obtain ⟨hstart, hend⟩ := isCharBoundary_ascii_occurrence hsub hascii hlast.occurs
  exact ⟨by omega, hstop ▸ hlast.end_le, hstart, hstop ▸ hend⟩

/-- The patterns of the cleanups, `func ` and `..`, are non-empty and ASCII. -/
theorem cleanup_patterns_ascii {sub rep : String} (h : (sub, rep) ∈ [("func ", ""), ("..", ".")]) :
    utf8Bytes sub ≠ [] ∧ ∀ b ∈ utf8Bytes sub, b.toNat < 0x80 := by
  simp only [List.mem_cons, Prod.mk.injEq, List.not_mem_nil, or_false] at h
  rcases h with ⟨rfl, -⟩ | ⟨rfl, -⟩ <;> decide +kernel

/-- The cleanup of `func ` and that of `..` never overlap, so both edits can be applied. The two
patterns share no byte. -/
theorem recentFixes_apart {text : String} {offset : Nat} {e₁ e₂ : OffsetEdit}
    (h₁ : IsRecentFix text offset "func " "" e₁) (h₂ : IsRecentFix text offset ".." "." e₂) :
    e₁.stop ≤ e₂.start ∨ e₂.stop ≤ e₁.start := by
  obtain ⟨-, hl₁, he₁⟩ := h₁
  obtain ⟨-, hl₂, he₂⟩ := h₂
  have hs₁ : e₁.stop = e₁.start + (utf8Bytes "func ").length := by rw [he₁]
  have hs₂ : e₂.stop = e₂.start + (utf8Bytes "..").length := by rw [he₂]
  rw [hs₁, hs₂]
  exact occurrences_apart (by decide +kernel) (by decide +kernel) (by decide +kernel)
    hl₁.occurs hl₂.occurs

/-- Function completions get the cleanup of `func ` and then that of `..`, each when found;
other completions get none. -/
theorem duplicateFixes_eq (kind text : String) (offset : Nat) :
    duplicateFixes kind text offset =
      if "source.lang.swift.decl.function.".toList <:+: kind.toList then
        (removeRecent text offset "func " "").toList ++ (removeRecent text offset ".." ".").toList
      else [] := by
  have hkind := containsText_iff_infix kind "source.lang.swift.decl.function."
  by_cases h : "source.lang.swift.decl.function.".toList <:+: kind.toList
  · rw [if_pos h, duplicateFixes, hkind.mpr h]
    cases removeRecent text offset "func " "" <;> cases removeRecent text offset ".." "." <;> rfl
  · rw [if_neg h, duplicateFixes, Bool.eq_false_iff.mpr (mt hkind.mp h)]
    rfl

/-- The cleanups of a function completion: at most one removing `func ` and then at most one
turning `..` into `.`, none unless the kind is a function declaration, and none while the cursor
is inside a character. Each removes the last occurrence of its pattern between the window start
(the greatest character boundary at or below `max (2·|sub| - 1) 3` bytes before the clamped
cursor) and the cursor, and is found whenever the cursor is on a boundary and the pattern occurs
there. Every edit removes a non-empty run of bytes between two character boundaries, at or before
the cursor, and the two edits never overlap. -/
theorem function_cleanups_remove_last_typed_occurrences (kind text : String) (offset : Nat) :
    duplicateFixes kind text offset =
        (if "source.lang.swift.decl.function.".toList <:+: kind.toList then
          (removeRecent text offset "func " "").toList ++ (removeRecent text offset ".." ".").toList
        else []) ∧
      (∀ sub rep, (sub, rep) ∈ [("func ", ""), ("..", ".")] →
        IsGreatest {b | isCharBoundary (utf8Bytes text) b = true ∧
            b ≤ clampedOffset text offset - max (2 * (utf8Bytes sub).length - 1) 3}
          (windowStart (utf8Bytes text) (utf8Bytes sub) (clampedOffset text offset)) ∧
        ∀ e, removeRecent text offset sub rep = some e ↔ IsRecentFix text offset sub rep e) ∧
      (isCharBoundary (utf8Bytes text) (clampedOffset text offset) = false →
        duplicateFixes kind text offset = []) ∧
      (∀ e ∈ duplicateFixes kind text offset,
        e.start < e.stop ∧ e.stop ≤ clampedOffset text offset ∧
          isCharBoundary (utf8Bytes text) e.start = true ∧
          isCharBoundary (utf8Bytes text) e.stop = true) ∧
      (duplicateFixes kind text offset).Pairwise (fun a b => a.stop ≤ b.start ∨ b.stop ≤ a.start) := by
  have hspec : ∀ sub rep, (sub, rep) ∈ [("func ", ""), ("..", ".")] →
      ∀ e, removeRecent text offset sub rep = some e ↔ IsRecentFix text offset sub rep e :=
    fun sub rep h => removeRecent_eq_some_iff (cleanup_patterns_ascii h).1 offset rep
  have hfrom : ∀ e ∈ duplicateFixes kind text offset, ∃ sub rep,
      (sub, rep) ∈ [("func ", ""), ("..", ".")] ∧ IsRecentFix text offset sub rep e := by
    intro e he
    rw [duplicateFixes_eq] at he
    split at he
    · rcases List.mem_append.mp he with h | h
      · exact ⟨_, _, by simp, (hspec _ _ (by simp) e).mp (Option.mem_toList.mp h)⟩
      · exact ⟨_, _, by simp, (hspec _ _ (by simp) e).mp (Option.mem_toList.mp h)⟩
    · simp at he
  refine ⟨duplicateFixes_eq kind text offset, fun sub rep h =>
    ⟨windowStart_isGreatest text _ _, hspec sub rep h⟩, fun hb => ?_, fun e he => ?_, ?_⟩
  · rw [duplicateFixes_eq, removeRecent_of_not_isCharBoundary hb,
      removeRecent_of_not_isCharBoundary hb]
    exact ite_self _
  · obtain ⟨sub, rep, hmem, hfix⟩ := hfrom e he
    exact hfix.bounds (cleanup_patterns_ascii hmem).1 (cleanup_patterns_ascii hmem).2
  · rw [duplicateFixes_eq]
    split
    · cases h₁ : removeRecent text offset "func " "" with
      | none => simp
      | some e₁ =>
        cases h₂ : removeRecent text offset ".." "." with
        | none => simp
        | some e₂ =>
          simpa using recentFixes_apart ((hspec _ _ (by simp) e₁).mp h₁)
            ((hspec _ _ (by simp) e₂).mp h₂)
    · simp

/-- Typing `..` after a two-byte character: the window three bytes before the cursor starts
inside `é`, backs off to its start, and the edit turns the `..` into `.`. -/
theorem double_dot_after_wide_character_cleaned :
    duplicateFixes "source.lang.swift.decl.function.free" "é.." 4 = [⟨2, 4, "."⟩] ∧
      windowStart (utf8Bytes "é..") (utf8Bytes "..") 4 = 0 ∧
      IsRecentFix "é.." 4 ".." "." ⟨2, 4, "."⟩ := by
  have h := function_cleanups_remove_last_typed_occurrences
    "source.lang.swift.decl.function.free" "é.." 4
  refine ⟨by decide +kernel, by decide +kernel, ?_⟩
  exact ((h.2.1 ".." "." (by simp)).2 ⟨2, 4, "."⟩).mp (by decide +kernel)

end SwiftDevEnv.Completion
