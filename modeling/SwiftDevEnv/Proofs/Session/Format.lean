import Mathlib
import SwiftDevEnv.Session.Client

/-!
# Formatting a range of lines

A client formats the lines `first` to `last` of a buffer by opening it and then walking a
four-state loop: opened, formatting a line, done, failed. Seen from outside, the loop is the
plain recursion of the monad of failures over the list of lines: the buffer is opened first and
its failure is the answer, then each line of the range is requested once, in increasing order,
the first failing request ends the run with its error, and a run without failures answers one
edit per line in line order. This holds in every monad, so for every outcome of the requests
and every way they are retried.

The loop counts lines in 32 bits, yet the lines it requests are exactly the natural numbers of
the range, also when `last` is the largest 32-bit line: the loop stops at `last` before its
successor would wrap. A scripted run, whose requests are recorded and answered from a table,
makes the order of the requests visible.
-/

namespace SwiftDevEnv.Session

open SwiftDevEnv.Backend SwiftDevEnv.Wire

/-- The lines from `first` to `last`, none when `first` comes after `last`. -/
def lineRange (first last : UInt32) : List Nat :=
  List.range' first.toNat (last.toNat + 1 - first.toNat)

theorem mem_lineRange {first last : UInt32} {n : Nat} :
    n ∈ lineRange first last ↔ first.toNat ≤ n ∧ n ≤ last.toNat := by
  simp only [lineRange, List.mem_range'_1]
  omega

theorem lineRange_eq_nil_iff {first last : UInt32} : lineRange first last = [] ↔ last < first := by
  simp only [lineRange, List.range'_eq_nil_iff, UInt32.lt_iff_toNat_lt]
  omega

/-- Every line of a range fits 32 bits. -/
theorem lt_of_mem_lineRange {first last : UInt32} {n : Nat} (h : n ∈ lineRange first last) :
    n < Nat.pow 2 32 :=
  Nat.lt_of_le_of_lt (mem_lineRange.mp h).2 last.toNat_lt

/-- A line of 32 bits survives the round trip through `UInt32`. -/
theorem toNat_toUInt32_of_lt {n : Nat} (h : n < Nat.pow 2 32) : n.toUInt32.toNat = n := by
  rw [Nat.toUInt32_eq, UInt32.toNat_ofNat_of_lt' h]

theorem lineRange_self (line : UInt32) : lineRange line line = [line.toNat] := by
  rw [lineRange, Nat.add_sub_cancel_left, List.range'_one]

/-- A range with a line after its first goes on from the successor of the first, which does not
wrap since it is at most the last. -/
theorem lineRange_of_lt {first last : UInt32} (h : first < last) :
    lineRange first last = first.toNat :: lineRange (first + 1) last := by
  have hnext : (first + 1).toNat = first.toNat + 1 := toNat_add_one_of_lt h
  have hcount : last.toNat + 1 - first.toNat = (last.toNat + 1 - (first + 1).toNat) + 1 := by
    rw [UInt32.lt_iff_toNat_lt] at h
    omega
  rw [lineRange, hcount, List.range'_succ, ← hnext, lineRange]

section Loop

variable {m : Type → Type} [Monad m]

@[simp] theorem formatLoop_done (formatLine : UInt32 → m (Except Error Json.Value))
    (first last : UInt32) (edits : Array LineEdit) :
    formatLoop formatLine first last .done edits = pure (.ok edits.toList) := by
  rw [formatLoop]

@[simp] theorem formatLoop_failed (formatLine : UInt32 → m (Except Error Json.Value))
    (first last : UInt32) (e : Error) (edits : Array LineEdit) :
    formatLoop formatLine first last (.failed e) edits = pure (.error e) := by
  rw [formatLoop]

theorem formatLoop_opened (formatLine : UInt32 → m (Except Error Json.Value))
    (first last : UInt32) (edits : Array LineEdit) :
    formatLoop formatLine first last .opened edits =
      if first > last then pure (.ok edits.toList)
      else formatLoop formatLine first last (.formatting first) edits := by
  rw [formatLoop]
  split <;> simp_all

/-- One line: its edit is kept and the loop goes on to the next line unless this was the last;
a failed request ends the loop with its error. -/
theorem formatLoop_step (formatLine : UInt32 → m (Except Error Json.Value))
    (first last line : UInt32) (edits : Array LineEdit) :
    formatLoop formatLine first last (.formatting line) edits = (do
      match ← formatLine line with
      | .ok answer =>
        let edits := edits.push (lineEdit line.toNat answer)
        if line ≥ last then pure (.ok edits.toList)
        else formatLoop formatLine first last (.formatting (line + 1)) edits
      | .error e => pure (.error e)) := by
  rw [formatLoop]
  congr 1
  funext r
  cases r with
  | error e => simp
  | ok answer => by_cases h : line ≥ last <;> simp [h]

/-- Formatting the given lines one after another as the monad of failures maps over them. -/
def formatEach (formatLine : Nat → m (Except Error Json.Value)) (lines : List Nat) :
    m (Except Error (List LineEdit)) :=
  (lines.mapM fun n => lineEdit n <$> ExceptT.mk (formatLine n)).run

@[simp] theorem formatEach_nil (formatLine : Nat → m (Except Error Json.Value)) :
    formatEach formatLine [] = pure (.ok []) := rfl

end Loop

section Lawful

variable {m : Type → Type} [Monad m] [LawfulMonad m]

/-- The first line is requested first; the rest only when it was answered. -/
theorem formatEach_cons (formatLine : Nat → m (Except Error Json.Value)) (n : Nat)
    (lines : List Nat) :
    formatEach formatLine (n :: lines) = (do
      match ← formatLine n with
      | .ok answer => Except.map (lineEdit n answer :: ·) <$> formatEach formatLine lines
      | .error e => pure (.error e)) := by
  rw [formatEach, List.mapM_cons, ExceptT.run_bind, ExceptT.run_map, ExceptT.run_mk,
    bind_map_left]
  congr 1
  funext r
  cases r with
  | error e => rfl
  | ok answer =>
    simp only [Except.map, ExceptT.run_bind, ExceptT.run_pure, map_eq_pure_bind, formatEach]
    congr 1
    funext r
    cases r <;> rfl

theorem formatEach_congr {f g : Nat → m (Except Error Json.Value)} {lines : List Nat}
    (h : ∀ n ∈ lines, f n = g n) : formatEach f lines = formatEach g lines := by
  induction lines with
  | nil => rfl
  | cons n lines ih =>
    rw [formatEach_cons, formatEach_cons, h n (by simp),
      ih fun k hk => h k (List.mem_cons_of_mem n hk)]

/-- From any line up to the last, the loop formats the rest of the range as a plain recursion, after
the edits it already holds. The induction is on the number of lines after `line`, the loop's
measure. -/
theorem formatLoop_formatting (formatLine : UInt32 → m (Except Error Json.Value))
    (first last : UInt32) {line : UInt32} (h : line ≤ last) (edits : Array LineEdit) :
    formatLoop formatLine first last (.formatting line) edits =
      Except.map (edits.toList ++ ·) <$>
        formatEach (fun n => formatLine n.toUInt32) (lineRange line last) := by
  obtain ⟨d, hd⟩ : ∃ d, last.toNat - line.toNat = d := ⟨_, rfl⟩
  induction d generalizing line edits with
  | zero =>
    have hline : line = last := by
      rw [UInt32.le_iff_toNat_le] at h
      exact UInt32.toNat_inj.mp (by omega)
    subst hline
    rw [formatLoop_step, lineRange_self, formatEach_cons, map_bind, Nat.toUInt32_eq,
      UInt32.ofNat_toNat]
    congr 1
    funext r
    cases r <;> simp [Except.map]
  | succ d ih =>
    have hlt : line < last := by rw [UInt32.lt_iff_toNat_lt]; omega
    have hle : line + 1 ≤ last := by
      rw [UInt32.le_iff_toNat_le, toNat_add_one_of_lt hlt]
      exact UInt32.lt_iff_toNat_lt.mp hlt
    have hd' : last.toNat - (line + 1).toNat = d := by rw [toNat_add_one_of_lt hlt]; omega
    rw [formatLoop_step, lineRange_of_lt hlt, formatEach_cons, map_bind, Nat.toUInt32_eq,
      UInt32.ofNat_toNat]
    congr 1
    funext r
    cases r with
    | error e => simp [Except.map]
    | ok answer =>
      simp only [if_neg (UInt32.not_le.mpr hlt)]
      rw [ih hle _ hd', Functor.map_map]
      congr 1
      funext r
      cases r <;> simp [Except.map]

/-- Formatting a range opens the buffer, answers its failure, and otherwise formats the lines
of the range one after another. -/
theorem formatRange_eq (openBuffer : m (Except Error Json.Value))
    (formatLine : UInt32 → m (Except Error Json.Value)) (first last : UInt32) :
    formatRange openBuffer formatLine first last = (do
      match ← openBuffer with
      | .error e => pure (.error e)
      | .ok _ => formatEach (fun n => formatLine n.toUInt32) (lineRange first last)) := by
  rw [formatRange]
  congr 1
  funext r
  cases r with
  | error e => simp
  | ok _ =>
    simp only [formatLoop_opened]
    split
    · rename_i hgt
      rw [(lineRange_eq_nil_iff.mpr hgt), formatEach_nil]
    · rename_i hle
      have hid : (Except.map fun x => x : Except Error (List LineEdit) → _) = id :=
        funext fun r => by cases r <;> rfl
      rw [formatLoop_formatting _ _ _ (UInt32.not_lt.mp hle), Array.toList_empty]
      simp only [List.nil_append, hid, id_map]

end Lawful

/-- The edit of an answer names the line the answer gives when that is a number below 2^32, and
the line asked for otherwise: the 64-bit reading of the answer's line is subsumed. -/
theorem lineEdit_line (line : Nat) (answer : Json.Value) :
    (lineEdit line answer).line =
      (((answer.get? "key.line").bind Json.Value.asNat?).filter (· < Nat.pow 2 32)).getD line := by
  simp only [lineEdit, wordAt]
  cases (answer.get? "key.line").bind Json.Value.asNat? with
  | none => rfl
  | some l =>
    by_cases hl : l < Nat.pow 2 32
    · have hword : l < Nat.pow 2 64 := Nat.lt_trans hl (by decide)
      simp [Option.filter, hl, hword]
    · by_cases hword : l < Nat.pow 2 64 <;> simp [Option.filter, hl, hword]

/-- The client formats a range by opening the buffer and requesting each line of the range, numbered
as a natural number. A line of the range survives the round trip through 32 bits. -/
theorem formatLines_eq (t : FileSystem.Tree) (text : String) (path : Path) (first last : UInt32)
    (options : FormatOptions) :
    formatLines t text path first last options = (do
      match ← editorOpen t text path with
      | .error e => pure (.error e)
      | .ok _ =>
        formatEach (fun n => request t (formatTextRequest path.text n options))
          (lineRange first last)) := by
  rw [formatLines, formatRange_eq]
  refine bind_congr fun r => ?_
  cases r with
  | error e => rfl
  | ok _ =>
    refine formatEach_congr fun n hn => ?_
    rw [toNat_toUInt32_of_lt (lt_of_mem_lineRange hn)]

/-- A request made while formatting: opening the buffer, or formatting one line. -/
inductive FormatRequest where
  | openBuffer
  | formatLine (line : Nat)
  deriving DecidableEq, Repr

/-- Opening the buffer in a scripted run: the request is recorded and answered as given. -/
def scriptedOpen (opened : Except Error Json.Value) :
    StateM (List FormatRequest) (Except Error Json.Value) :=
  modifyGet fun sent => (opened, sent ++ [.openBuffer])

/-- Formatting a line in a scripted run: the request is recorded and answered from the table. -/
def scriptedLine (answer : Nat → Except Error Json.Value) (line : UInt32) :
    StateM (List FormatRequest) (Except Error Json.Value) :=
  modifyGet fun sent => (answer line.toNat, sent ++ [.formatLine line.toNat])

theorem scriptedLine_run (answer : Nat → Except Error Json.Value) (line : UInt32)
    (sent : List FormatRequest) :
    (scriptedLine answer line).run sent =
      pure (answer line.toNat, sent ++ [.formatLine line.toNat]) :=
  rfl

/-- A scripted run over lines of 32 bits requests them in order up to the first that fails, and
answers as the monad of failures maps over the table. -/
theorem formatEach_scripted (answer : Nat → Except Error Json.Value) (lines : List Nat)
    (hlines : ∀ n ∈ lines, n < Nat.pow 2 32) (sent : List FormatRequest) :
    (formatEach (fun n => scriptedLine answer n.toUInt32) lines).run sent =
      (lines.mapM fun n => (answer n).map (lineEdit n),
        sent ++ (lines.take ((lines.takeWhile fun n => (answer n).isOk).length + 1)).map
          .formatLine) := by
  induction lines generalizing sent with
  | nil =>
    simp only [formatEach_nil, StateT.run_pure, List.mapM_nil, List.takeWhile_nil, List.take_nil,
      List.map_nil, List.append_nil]
    rfl
  | cons n lines ih =>
    rw [formatEach_cons, StateT.run_bind, scriptedLine_run,
      toNat_toUInt32_of_lt (hlines n (by simp)), pure_bind]
    cases hanswer : answer n with
    | error e =>
      have hwhile : (n :: lines).takeWhile (fun n => (answer n).isOk) = [] := by
        simp [hanswer, Except.isOk, Except.toBool]
      dsimp only
      rw [hwhile, List.mapM_cons, hanswer]
      rfl
    | ok a =>
      have hwhile : (n :: lines).takeWhile (fun n => (answer n).isOk) =
          n :: lines.takeWhile (fun n => (answer n).isOk) := by
        simp [hanswer, Except.isOk, Except.toBool]
      dsimp only
      rw [StateT.run_map, ih (fun k hk => hlines k (List.mem_cons_of_mem n hk)), hwhile,
        List.mapM_cons, hanswer]
      simp only [List.length_cons, List.take_succ_cons, List.map_cons, List.append_assoc,
        List.singleton_append]
      change (Except.map _ (List.mapM _ lines), _) = (_, _)
      congr 1

theorem scriptedOpen_run (opened : Except Error Json.Value) (sent : List FormatRequest) :
    (scriptedOpen opened).run sent = pure (opened, sent ++ [.openBuffer]) :=
  rfl

/-- A scripted run opens the buffer, then requests the lines of the range in order up to the
first that fails. -/
theorem formatRange_scripted (opened : Except Error Json.Value)
    (answer : Nat → Except Error Json.Value) (first last : UInt32) :
    (formatRange (scriptedOpen opened) (scriptedLine answer) first last).run [] =
      match opened with
      | .error e => (.error e, [.openBuffer])
      | .ok _ =>
        let lines := lineRange first last
        (lines.mapM fun n => (answer n).map (lineEdit n),
          .openBuffer :: (lines.take ((lines.takeWhile fun n => (answer n).isOk).length + 1)).map
            .formatLine) := by
  rw [formatRange_eq, StateT.run_bind, scriptedOpen_run, pure_bind]
  cases opened with
  | error e => rfl
  | ok _ => exact formatEach_scripted answer _ (fun n hn => lt_of_mem_lineRange hn) _

example :
    (formatRange (scriptedOpen (.ok .null)) (scriptedLine fun _ => .ok .null) 3 2).run [] =
      (.ok [], [.openBuffer]) := by
  rw [formatRange_scripted]
  rfl

section Claim

variable {m : Type → Type} [Monad m] [LawfulMonad m]

/-- Formatting the lines `first` to `last` opens the buffer first and answers its failure;
otherwise it requests each line of the range once, in increasing order, stops at the first
failing request with its error, and without failures answers one edit per line in line order.
This holds in every monad, for the client, whose requests name each line as a natural number
also at the top of the 32-bit range, and for a scripted run whose requests are recorded. The
edit of a line names the line its answer gives when that fits 32 bits, and the line asked for
otherwise. -/
theorem formatting_requests_each_line_in_order :
    (∀ (openBuffer : m (Except Error Json.Value))
        (formatLine : UInt32 → m (Except Error Json.Value)) (first last : UInt32),
      formatRange openBuffer formatLine first last = (do
        match ← openBuffer with
        | .error e => pure (.error e)
        | .ok _ => formatEach (fun n => formatLine n.toUInt32) (lineRange first last))) ∧
    (∀ formatLine : Nat → m (Except Error Json.Value),
      formatEach formatLine [] = pure (.ok []) ∧
      ∀ n lines, formatEach formatLine (n :: lines) = (do
        match ← formatLine n with
        | .ok answer => Except.map (lineEdit n answer :: ·) <$> formatEach formatLine lines
        | .error e => pure (.error e))) ∧
    (∀ first last n, n ∈ lineRange first last ↔ first.toNat ≤ n ∧ n ≤ last.toNat) ∧
    (∀ t text path first last options, formatLines t text path first last options = (do
      match ← editorOpen t text path with
      | .error e => pure (.error e)
      | .ok _ =>
        formatEach (fun n => request t (formatTextRequest path.text n options))
          (lineRange first last))) ∧
    (∀ opened answer first last,
      (formatRange (scriptedOpen opened) (scriptedLine answer) first last).run [] =
        match opened with
        | .error e => (.error e, [.openBuffer])
        | .ok _ =>
          let lines := lineRange first last
          (lines.mapM fun n => (answer n).map (lineEdit n),
            .openBuffer :: (lines.take ((lines.takeWhile fun n => (answer n).isOk).length + 1)).map
              .formatLine)) ∧
    ∀ line answer, (lineEdit line answer).line =
      (((answer.get? "key.line").bind Json.Value.asNat?).filter (· < Nat.pow 2 32)).getD line :=
  ⟨formatRange_eq, fun f => ⟨formatEach_nil f, formatEach_cons f⟩, fun _ _ _ => mem_lineRange,
    formatLines_eq, formatRange_scripted, lineEdit_line⟩

/-- The top line of the 32-bit range alone: it is requested once, under its own number. -/
theorem formatting_the_top_32_bit_line :
    (formatRange (scriptedOpen (.ok .null)) (scriptedLine fun _ => .ok .null)
        4294967295 4294967295).run [] =
      (.ok [lineEdit 4294967295 .null], [.openBuffer, .formatLine 4294967295]) := by
  rw [(formatting_requests_each_line_in_order (m := Id)).2.2.2.2.1]
  rfl

end Claim

end SwiftDevEnv.Session
