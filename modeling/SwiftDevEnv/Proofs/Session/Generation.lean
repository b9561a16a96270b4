import Mathlib
import SwiftDevEnv.Proofs.Session.Task
import SwiftDevEnv.Proofs.Wire.Frame

/-!
# Output left over from an earlier generation

A frame is assembled from the bytes the slot table has accumulated since the last whole frame.
Those bytes are dropped when a restart replaces the process, and when a process that ended its
output is replaced by a successful start. They are kept when that replacement fails to start:
no process runs then, and the next request starts one itself, so the first output of that new
generation is appended to what the lost process left behind.

The main statement gives the accumulated output at the first chunk of a generation exactly:
nothing, unless the generation was started by a request that found no process running, and
then what was left over before that start (or nothing, when a failed restart dropped it in
the meantime). A concrete run shows the leftover case: the frame then answers the request
named by the lost process's id line with a payload made of both generations' bytes.
-/

namespace SwiftDevEnv.Session

open SwiftDevEnv.Backend SwiftDevEnv.Wire SwiftDevEnv.Wire.SlotTable

namespace TaskState

variable {ρ : Type}

/-- A request keeps the accumulated output, and its generation is the one its start left. -/
theorem step_request_buffer {s s' : TaskState ρ} {start : Except String Unit} (r : ρ)
    (write : Except IoError Unit) (ha : s.accepting = true) (hs : s.ensureRunning start = .ok s') :
    (s.step (.request r start write)).1.table.buffer = s.table.buffer ∧
      (s.step (.request r start write)).1.generation = s'.generation := by
  obtain ⟨-, -, -, hgen, htable⟩ := step_request_of_ok r write ha hs
  refine ⟨?_, hgen⟩
  rcases htable with ⟨-, htable, -⟩ | ⟨e, -, htable, -⟩ <;> simp [htable]

/-- What a step does to the generation and to the accumulated output. A step that keeps the
generation feeds output of that generation, or keeps the accumulated output, or drops it. A step
that starts the next generation drops it, unless it is a request that found no process running,
which keeps it. A restart drops the accumulated output whether its start succeeds or not, and only
the close of the running current process starts a replacement. -/
theorem step_generation_cases (s : TaskState ρ) (input : TaskInput ρ) :
    ((s.step input).1.generation = s.generation ∧
      ((∃ chunk, input = .stdout s.generation chunk) ∨
        (s.step input).1.table.buffer = s.table.buffer ∨ (s.step input).1.table.buffer = [])) ∨
    ((s.step input).1.generation = s.generation + 1 ∧
      ((s.step input).1.table.buffer = [] ∨
        ∃ r start write, input = .request r start write ∧ s.running = false ∧
          (s.step input).1.table.buffer = s.table.buffer)) := by
  by_cases ha : s.accepting = true
  · cases input with
    | request r start write =>
      rcases hs : s.ensureRunning start with e | s'
      · simp [step, submit, ha, hs]
      · obtain ⟨hbuf, hgen⟩ := step_request_buffer r write ha hs
        rcases ensureRunning_cases hs with ⟨-, rfl⟩ | ⟨hr, rfl⟩
        · exact .inl ⟨hgen, .inr (.inl hbuf)⟩
        · exact .inr ⟨hgen, .inr ⟨r, start, write, rfl, hr, hbuf⟩⟩
    | restart start =>
      simp only [step, ha, if_true, restart]
      cases start with
      | ok u => exact .inr ⟨rfl, .inl (SlotTable.discardBuffer_buffer _)⟩
      | error e => exact .inl ⟨rfl, .inr (.inr (SlotTable.discardBuffer_buffer _))⟩
    | status | shutdown => simp [step, ha]
    | stdout g chunk =>
      simp only [step, ha, if_true, onStdout]
      by_cases hg : g = s.generation
      · subst hg
        rw [if_pos rfl]
        exact .inl ⟨rfl, .inl ⟨chunk, rfl⟩⟩
      · rw [if_neg hg]
        exact .inl ⟨rfl, .inr (.inl rfl)⟩
    | closed g o =>
      simp only [step, ha, if_true, onClosed]
      by_cases hc : g = s.generation ∧ s.running = true
      · rw [if_pos hc]
        cases o with
        | ok u => exact .inr ⟨rfl, .inl (SlotTable.discardBuffer_buffer _)⟩
        | error e => exact .inl ⟨rfl, .inr (.inl rfl)⟩
      · rw [if_neg hc]
        exact .inl ⟨rfl, .inr (.inl rfl)⟩
  · simp [step, ha]

/-- No step lowers the generation. -/
theorem generation_le_step (s : TaskState ρ) (input : TaskInput ρ) :
    s.generation ≤ (s.step input).1.generation := by
  rcases step_generation_cases s input with ⟨h, -⟩ | ⟨h, -⟩ <;> omega

/-- No run lowers the generation. -/
theorem generation_le_run (s : TaskState ρ) (inputs : List (TaskInput ρ)) :
    s.generation ≤ (s.run inputs).1.generation := by
  induction inputs generalizing s with
  | nil => exact le_rfl
  | cons input rest ih => exact (generation_le_step s input).trans (ih _)

/-- Through steps that keep the generation and feed none of its output, the accumulated output stays
as it was or is dropped. The generation cannot rise in the first step and come back down in the
rest. -/
theorem run_buffer_of_generation (s : TaskState ρ) (rest : List (TaskInput ρ))
    (hgen : (s.run rest).1.generation = s.generation)
    (hfeed : ∀ chunk, .stdout s.generation chunk ∉ rest) :
    (s.run rest).1.table.buffer = s.table.buffer ∨ (s.run rest).1.table.buffer = [] := by
  induction rest generalizing s with
  | nil => exact .inl rfl
  | cons input rest ih =>
    rw [run_cons_fst] at hgen ⊢
    have hstep : (s.step input).1.generation = s.generation :=
      le_antisymm (hgen ▸ generation_le_run _ rest) (generation_le_step s input)
    have hfirst : (s.step input).1.table.buffer = s.table.buffer ∨
        (s.step input).1.table.buffer = [] := by
      rcases step_generation_cases s input with ⟨-, ⟨chunk, rfl⟩ | hb⟩ | ⟨h, -⟩
      · exact absurd (List.mem_cons_self ..) (hfeed chunk)
      · exact hb
      · omega
    have hrest := ih (s.step input).1 (hstep ▸ hgen)
      fun chunk h => hfeed chunk (List.mem_cons_of_mem _ (hstep ▸ h))
    rcases hrest with hrest | hrest
    · rw [hrest]
      exact hfirst
    · exact .inr hrest

end TaskState

open TaskState

/-- The output accumulated when the first chunk of a generation is fed: nothing, unless the
generation was started by a request that found no process running, and then exactly what was
accumulated before that start, or nothing when a failed restart dropped it in between. The
generation is started by the step `start` and stays current through `rest`, which feeds none
of its output. -/
theorem buffer_at_first_chunk_of_generation {ρ : Type} (s : TaskState ρ) (start : TaskInput ρ)
    (rest : List (TaskInput ρ)) (hstart : (s.step start).1.generation = s.generation + 1)
    (hcurrent : ((s.step start).1.run rest).1.generation = s.generation + 1)
    (hfirst : ∀ chunk, .stdout (s.generation + 1) chunk ∉ rest) :
    ((s.step start).1.run rest).1.table.buffer = [] ∨
      ∃ r o w, start = .request r o w ∧ s.running = false ∧
        ((s.step start).1.run rest).1.table.buffer = s.table.buffer := by
  have hrest := run_buffer_of_generation (s.step start).1 rest (hstart ▸ hcurrent)
    (hstart ▸ hfirst)
  rcases step_generation_cases s start with ⟨h, -⟩ | ⟨-, hb⟩
  · omega
  rcases hrest with hrest | hrest
  · rw [hrest]
    rcases hb with hb | ⟨r, o, w, rfl, hr, hb⟩
    · exact .inl hb
    · exact .inr ⟨r, o, w, rfl, hr, hb⟩
  · exact .inl hrest

/-- A process of generation 1 leaves the first line of a frame behind and its replacement fails
to start; the request that starts generation 2 then keeps those bytes for its first chunk. -/
theorem leftover_output_survives_lazy_start :
    let s := (({} : TaskState Nat).started.run
      [.request 0 (.ok ()) (.ok ()), .stdout 1 [48, 10, 123, 10], .closed 1 (.error "gone")]).1
    (s.step (.request 1 (.ok ()) (.ok ()))).1.generation = s.generation + 1 ∧
      ((s.step (.request 1 (.ok ()) (.ok ()))).1.run []).1.generation = s.generation + 1 ∧
      (∀ chunk, .stdout (s.generation + 1) chunk ∉ ([] : List (TaskInput Nat))) ∧
      (((s.step (.request 1 (.ok ()) (.ok ()))).1.run []).1.table.buffer = [] ∨
        ∃ r o w, TaskInput.request 1 (.ok ()) (.ok ()) = .request r o w ∧ s.running = false ∧
          ((s.step (.request 1 (.ok ()) (.ok ()))).1.run []).1.table.buffer = s.table.buffer) :=
  ⟨by decide, by decide, by simp,
    buffer_at_first_chunk_of_generation _ (.request 1 (.ok ()) (.ok ())) [] (by decide) (by decide)
      (by simp)⟩

/-- A process of generation 1 writes the first line of a frame for request 0 (the bytes of
`"0\n{\n"`) and ends, and its replacement fails to start. Request 1 starts generation 2, whose
first chunk is its whole answer. That chunk is appended to generation 1's bytes, and the frame
they form answers request 0 with a payload made of both. -/
theorem stale_output_prefixes_next_generation :
    let s := (({} : TaskState Nat).started.run
      [.request 0 (.ok ()) (.ok ()), .stdout 1 [48, 10, 123, 10], .closed 1 (.error "gone"),
        .request 1 (.ok ()) (.ok ())]).1
    s.generation = 2 ∧ s.table.buffer = [48, 10, 123, 10] ∧
      (s.step (.stdout 2 [49, 10, 123, 10, 125, 10, 10])).2.2 =
        [⟨0, 0, payloadAnswer [123, 10, 49, 10, 123, 10, 125, 10, 10]⟩] := by
  intro s
  have hgen : s.generation = 2 := by decide
  have hbuf : s.table.buffer = [48, 10, 123, 10] := by decide
  have hacc : s.accepting = true := by decide
  have hslot : s.table.slots (slotOf 0) = some ⟨0, 0⟩ := rfl
  have hline : Text.utf8Bytes (idLine 0) = [48, 10] := by
    rw [utf8Bytes_idLine]
    rfl
  have hsplit := splitFrame_idLine (show 0 < Nat.pow 2 64 by decide)
    [123, 10, 49, 10, 123, 10, 125, 10, 10]
  rw [hline] at hsplit
  have hfeed : s.table.feed [49, 10, 123, 10, 125, 10, 10] =
      ({ s.table with buffer := [] }.setSlot (slotOf 0) none, .ok (some 0),
        some ⟨0, 0, payloadAnswer [123, 10, 49, 10, 123, 10, 125, 10, 10]⟩) :=
    feed_of_pending (by rw [hbuf]; decide) (by rw [hbuf]; exact hsplit) hslot
  refine ⟨hgen, hbuf, ?_⟩
  simp [step, hacc, onStdout, hgen, hfeed]

end SwiftDevEnv.Session
