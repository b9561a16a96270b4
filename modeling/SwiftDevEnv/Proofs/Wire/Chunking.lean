import Mathlib
import SwiftDevEnv.Proofs.Wire.Ledger

/-!
# Output cut into chunks

The backend's output reaches the slot table in chunks cut anywhere, down to single bytes. A
chunk that leaves the accumulated output short of a frame is only added to it: nothing is
answered and no slot changes. So a run of such chunks followed by one more acts, on its last
call, exactly as one feed of all of them together from where the run started. The condition is
on the running totals only: a chunk boundary that falls right after an early terminator
completes a frame there, which is how a payload carrying the terminator is cut short.

A frame in which the terminator occurs only at its end therefore reads the same under every
chunking, and after every call of a client the accumulated output does not end with the
terminator, since a completed frame is taken out whole by the feed that completes it.
-/

namespace SwiftDevEnv.Wire

/-- The terminator occurs in `bytes` only as its end, if at all. -/
def TerminatorOnlyAtEnd (bytes : List UInt8) : Prop :=
  ∀ u v, bytes = u ++ terminator ++ v → v = []

/-- Output with the terminator only at its end forms no frame before its last byte. -/
theorem isCompleteFrame_prefix_eq_false {bytes rest : List UInt8}
    (h : TerminatorOnlyAtEnd (bytes ++ rest)) (hrest : rest ≠ []) :
    isCompleteFrame bytes = false := by
  rw [Bool.eq_false_iff]
  intro hc
  obtain ⟨u, rfl⟩ := (List.isSuffixOf_iff_suffix.mp hc)
  exact hrest (h u rest (by simp))

/-- Nothing accumulated is no frame. -/
@[simp] theorem isCompleteFrame_nil : isCompleteFrame [] = false := rfl

namespace SlotTable

variable {ρ : Type}

@[simp] theorem feedAll_nil (t : SlotTable ρ) : t.feedAll [] = (t, [], []) := rfl

/-- Feeding chunks in two runs: the results and answers of the first run, then those of the
second from where the first left the table. -/
theorem feedAll_append (t : SlotTable ρ) (cs ds : List (List UInt8)) :
    t.feedAll (cs ++ ds) =
      (((t.feedAll cs).1.feedAll ds).1, (t.feedAll cs).2.1 ++ ((t.feedAll cs).1.feedAll ds).2.1,
        (t.feedAll cs).2.2 ++ ((t.feedAll cs).1.feedAll ds).2.2) := by
  induction cs generalizing t with
  | nil => simp
  | cons c cs ih => simp [feedAll, ih]

/-- A chunk that leaves the output short of a frame is only accumulated. -/
theorem feed_of_incomplete {t : SlotTable ρ} {chunk : List UInt8}
    (h : isCompleteFrame (t.buffer ++ chunk) = false) :
    t.feed chunk = ({ t with buffer := t.buffer ++ chunk }, .ok none, none) := by
  simp [feed, h]

/-- Feeding a table whose output was extended by `pre` is feeding `pre` and the chunk at once. -/
theorem feed_extended (t : SlotTable ρ) (pre chunk : List UInt8) :
    ({ t with buffer := t.buffer ++ pre } : SlotTable ρ).feed chunk = t.feed (pre ++ chunk) := by
  simp [feed, List.append_assoc]

/-- Chunks none of whose running totals completes a frame are accumulated: each call reports
no answer, nothing is handed out and the slots stay as they were. -/
theorem feedAll_of_incomplete (t : SlotTable ρ) (cs : List (List UInt8))
    (h : ∀ i, 0 < i → i ≤ cs.length →
      isCompleteFrame (t.buffer ++ (cs.take i).flatten) = false) :
    t.feedAll cs =
      ({ t with buffer := t.buffer ++ cs.flatten }, List.replicate cs.length (.ok none), []) := by
  induction cs generalizing t with
  | nil => simp
  | cons c cs ih =>
    have hc : isCompleteFrame (t.buffer ++ c) = false := by simpa using h 1 (by omega) (by simp)
    have hrest := ih { t with buffer := t.buffer ++ c } fun i hi hle => by
      simpa [List.append_assoc] using h (i + 1) (by omega) (by simpa using hle)
    simp [feedAll, feed_of_incomplete hc, hrest, List.append_assoc, List.replicate_succ]

/-- Chunks whose running totals before the last complete no frame act, on the last call, as
one feed of their concatenation. -/
theorem feedAll_append_singleton (t : SlotTable ρ) (cs : List (List UInt8)) (c : List UInt8)
    (h : ∀ i, 0 < i → i ≤ cs.length →
      isCompleteFrame (t.buffer ++ (cs.take i).flatten) = false) :
    t.feedAll (cs ++ [c]) =
      ((t.feed (cs.flatten ++ c)).1,
        List.replicate cs.length (.ok none) ++ [(t.feed (cs.flatten ++ c)).2.1],
        (t.feed (cs.flatten ++ c)).2.2.toList) := by
  rw [feedAll_append, feedAll_of_incomplete t cs h]
  simp [feedAll, feed_extended]

/-- A frame with the terminator only at its end, fed from nothing accumulated in chunks whose
last is not empty, acts as one feed of the whole frame. -/
theorem feedAll_frame {t : SlotTable ρ} (hbuf : t.buffer = []) {frame : List UInt8}
    (honly : TerminatorOnlyAtEnd frame) (cs : List (List UInt8)) (c : List UInt8) (hc : c ≠ [])
    (hcut : (cs ++ [c]).flatten = frame) :
    t.feedAll (cs ++ [c]) =
      ((t.feed frame).1, List.replicate cs.length (.ok none) ++ [(t.feed frame).2.1],
        (t.feed frame).2.2.toList) := by
  have hframe : cs.flatten ++ c = frame := by simpa using hcut
  rw [feedAll_append_singleton t cs c, hframe]
  intro i _ _
  have hsplit : (cs.take i).flatten ++ ((cs.drop i).flatten ++ c) = frame := by
    rw [← List.append_assoc, ← List.flatten_append, List.take_append_drop, hframe]
  rw [hbuf, List.nil_append]
  exact isCompleteFrame_prefix_eq_false (hsplit ▸ honly) (by simp [hc])

/-- After a feed the accumulated output does not end with the terminator. -/
theorem feed_buffer_incomplete (t : SlotTable ρ) (chunk : List UInt8) :
    isCompleteFrame (t.feed chunk).1.buffer = false := by
  rcases feed_cases t chunk with ⟨hc, hf⟩ | ⟨-, e, -, hf⟩ | ⟨-, id, payload, -, -, hf⟩ |
      ⟨-, id, payload, r, -, -, hf⟩
  · simpa [hf] using hc
  · simp [hf]
  · simp [hf]
  · simp [hf]

end SlotTable

namespace Ledger

/-- A call leaves accumulated output that does not end with the terminator, when it found such
output. -/
theorem call_buffer_incomplete {l : Ledger} (h : isCompleteFrame l.table.buffer = false)
    (c : Call) : isCompleteFrame (l.call c).1.table.buffer = false := by
  cases c with
  | register id => simpa [call] using h
  | data chunk => exact SlotTable.feed_buffer_incomplete l.table chunk
  | reject id e => simpa [call] using h
  | discard => simp [call]

/-- Along every run of calls from the empty table the accumulated output never ends with the
terminator. -/
theorem run_buffer_incomplete (calls : List Call) :
    isCompleteFrame (empty.run calls).1.table.buffer = false := by
  suffices h : ∀ l : Ledger, isCompleteFrame l.table.buffer = false →
      isCompleteFrame (l.run calls).1.table.buffer = false from h empty rfl
  induction calls with
  | nil => exact fun l hl => hl
  | cons c cs ih => exact fun l hl => ih _ (call_buffer_incomplete hl c)

end Ledger

open SlotTable

/-- Chunks fed one after another, none of whose running totals before the last ends with the
terminator: after each of the first calls the table keeps its slots and holds the output so
far, every call but the last reports no answer and hands nothing out, and the last call acts
exactly as one feed of all the chunks together from the table they started from. A frame with
the terminator only at its end is so read the same under every chunking, and along every run
of calls from the empty table the accumulated output never ends with the terminator. -/
theorem chunked_output_reads_as_one_feed {ρ : Type} (t : SlotTable ρ) (cs : List (List UInt8))
    (c : List UInt8) (hwait : ∀ i, 0 < i → i ≤ cs.length →
      isCompleteFrame (t.buffer ++ (cs.take i).flatten) = false) :
    (∀ i ≤ cs.length, t.feedAll (cs.take i) =
      ({ t with buffer := t.buffer ++ (cs.take i).flatten }, List.replicate i (.ok none), [])) ∧
    t.feedAll (cs ++ [c]) =
      ((t.feed (cs.flatten ++ c)).1,
        List.replicate cs.length (.ok none) ++ [(t.feed (cs.flatten ++ c)).2.1],
        (t.feed (cs.flatten ++ c)).2.2.toList) ∧
    (∀ (u : SlotTable ρ) (frame : List UInt8), u.buffer = [] → TerminatorOnlyAtEnd frame →
      ∀ ds d, d ≠ [] → (ds ++ [d]).flatten = frame →
        u.feedAll (ds ++ [d]) =
          ((u.feed frame).1, List.replicate ds.length (.ok none) ++ [(u.feed frame).2.1],
            (u.feed frame).2.2.toList)) ∧
    ∀ calls, isCompleteFrame (Ledger.empty.run calls).1.table.buffer = false := by
  refine ⟨fun i hi => ?_, feedAll_append_singleton t cs c hwait,
    fun u frame hbuf honly ds d hd hcut => feedAll_frame hbuf honly ds d hd hcut,
    Ledger.run_buffer_incomplete⟩
  have hlen : (cs.take i).length = i := List.length_take_of_le hi
  rw [feedAll_of_incomplete t (cs.take i) fun j hj hji => ?_, hlen]
  rw [List.take_take, Nat.min_eq_left (hlen ▸ hji)]
  exact hwait j hj (by omega)

/-- The id line of request 3 and a frame's last line, cut after the id line's line feed and
before the terminator's last byte. -/
theorem chunked_frame_three :
    (∀ i, 0 < i → i ≤ [[51, 10], [123, 10, 125, 10]].length →
      isCompleteFrame ((SlotTable.empty : SlotTable Nat).buffer ++
        ([[51, 10], [123, 10, 125, 10]].take i).flatten) = false) ∧
    (SlotTable.empty : SlotTable Nat).feedAll ([[51, 10], [123, 10, 125, 10]] ++ [[10]]) =
      (((SlotTable.empty : SlotTable Nat).feed ([[51, 10], [123, 10, 125, 10]].flatten ++ [10])).1,
        List.replicate 2 (.ok none) ++
          [((SlotTable.empty : SlotTable Nat).feed
            ([[51, 10], [123, 10, 125, 10]].flatten ++ [10])).2.1],
        ((SlotTable.empty : SlotTable Nat).feed
          ([[51, 10], [123, 10, 125, 10]].flatten ++ [10])).2.2.toList) := by
  have hwait : ∀ i, 0 < i → i ≤ [[51, 10], [123, 10, 125, 10]].length →
      isCompleteFrame ((SlotTable.empty : SlotTable Nat).buffer ++
        ([[51, 10], [123, 10, 125, 10]].take i).flatten) = false := by
    intro i hi hle
    obtain rfl | rfl : i = 1 ∨ i = 2 := by simp at hle; omega
    all_goals rfl
  exact ⟨hwait, (chunked_output_reads_as_one_feed _ _ [10] hwait).2.1⟩

end SwiftDevEnv.Wire
