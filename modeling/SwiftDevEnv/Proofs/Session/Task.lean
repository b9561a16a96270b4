import Mathlib
import SwiftDevEnv.Proofs.Wire.SlotTable
import SwiftDevEnv.Session.Task

/-!
# What one step of the session task does

The task's state changes only through `step`. This module says once what a step does to the
id counter, to the waiting requests and to the answers it hands out, so that the invariants
of the session are short case analyses over one inversion lemma.

A request whose process runs or can be started takes the next id and waits in the slot of
that id, superseding the request there; when its write fails it is answered at once with the
write's error. Every other step is quiet: it hands out no id, keeps the counter, only ever
empties slots, and answers waiting requests only with the payloads of frames.
-/

namespace SwiftDevEnv.Session

open SwiftDevEnv.Backend SwiftDevEnv.Wire SwiftDevEnv.Wire.SlotTable

/-- The id a reply says its request took. -/
def TaskReply.assigned : TaskReply → Option Nat
  | .submitted (.ok id) => some id
  | _ => .none

namespace TaskState

variable {ρ : Type} {s s' : TaskState ρ}

@[simp] theorem started_table (s : TaskState ρ) : s.started.table = s.table := rfl

@[simp] theorem started_nextRequestId (s : TaskState ρ) :
    s.started.nextRequestId = s.nextRequestId := rfl

@[simp] theorem started_accepting (s : TaskState ρ) : s.started.accepting = s.accepting := rfl

@[simp] theorem started_running (s : TaskState ρ) : s.started.running = true := rfl

@[simp] theorem started_generation (s : TaskState ρ) :
    s.started.generation = s.generation + 1 := rfl

@[simp] theorem run_nil (s : TaskState ρ) : s.run [] = (s, []) := rfl

@[simp] theorem run_cons_fst (s : TaskState ρ) (input : TaskInput ρ)
    (rest : List (TaskInput ρ)) :
    (s.run (input :: rest)).1 = ((s.step input).1.run rest).1 := rfl

@[simp] theorem run_cons_snd (s : TaskState ρ) (input : TaskInput ρ)
    (rest : List (TaskInput ρ)) :
    (s.run (input :: rest)).2 =
      ((s.step input).2.1, (s.step input).2.2) :: ((s.step input).1.run rest).2 := rfl

/-- A start that succeeds keeps the counter and the waiting requests. -/
theorem ensureRunning_eq_ok {o : Except String Unit} (h : s.ensureRunning o = .ok s') :
    s'.table = s.table ∧ s'.nextRequestId = s.nextRequestId ∧ s'.accepting = s.accepting := by
  unfold ensureRunning start at h
  split at h
  · cases h
    exact ⟨rfl, rfl, rfl⟩
  · split at h
    · cases h
      simp
    · cases h

/-- A start succeeds by finding the process running, or by starting one where none ran. -/
theorem ensureRunning_cases {o : Except String Unit} (h : s.ensureRunning o = .ok s') :
    (s.running = true ∧ s' = s) ∨ (s.running = false ∧ s' = s.started) := by
  unfold ensureRunning start at h
  cases hr : s.running
  · rw [hr] at h
    cases o <;> simp at h
    exact .inr ⟨rfl, h.symm⟩
  · rw [hr, if_pos rfl] at h
    exact .inl ⟨rfl, (Except.ok.inj h).symm⟩

/-- A start whose outcome is success succeeds. -/
theorem ensureRunning_ok (s : TaskState ρ) : ∃ s', s.ensureRunning (.ok ()) = .ok s' := by
  unfold ensureRunning start
  split <;> exact ⟨_, rfl⟩

/-- A request whose process runs or starts takes the next id and waits in the slot of that id,
superseding the request there; a failed write answers it at once with the write's error. -/
theorem step_request_of_ok {start : Except String Unit} (r : ρ) (write : Except IoError Unit)
    (ha : s.accepting = true) (h : s.ensureRunning start = .ok s') :
    let registered := s.table.insert s.nextRequestId r
    let t := s.step (.request r start write)
    t.2.1 = .submitted (.ok s.nextRequestId) ∧ t.1.nextRequestId = s.nextRequestId + 1 ∧
      t.1.accepting = true ∧ t.1.generation = s'.generation ∧
      ((write = .ok () ∧ t.1.table = registered.1 ∧ t.2.2 = registered.2.toList) ∨
        ∃ e, write = .error e ∧ t.1.table = (registered.1.reject s.nextRequestId (.io e)).1 ∧
          t.2.2 = registered.2.toList ++
            (registered.1.reject s.nextRequestId (.io e)).2.toList) := by
  obtain ⟨htable, hnext, hacc⟩ := ensureRunning_eq_ok h
  cases write with
  | ok u => simp [step, submit, ha, h, htable, hnext, hacc]
  | error e => simp [step, submit, ha, h, htable, hnext, hacc]

/-- A step that serves no request: it hands out no id, keeps the counter, only ever empties
slots, and answers waiting requests only with payloads of frames. -/
structure Quiet (s : TaskState ρ) (t : TaskState ρ × TaskReply × List (Delivery ρ)) :
    Prop where
  assigned : t.2.1.assigned = none
  counter : t.1.nextRequestId = s.nextRequestId
  slots : ∀ i p, t.1.table.slots i = some p → s.table.slots i = some p
  answers : ∀ d ∈ t.2.2, ∃ payload, d.answer = payloadAnswer payload

/-- Keeping the waiting requests and handing out nothing is quiet. -/
theorem quiet_of_table {t : TaskState ρ} {reply : TaskReply} (hr : reply.assigned = none)
    (hnext : t.nextRequestId = s.nextRequestId) (hslots : t.table.slots = s.table.slots) :
    Quiet s (t, reply, []) :=
  ⟨hr, hnext, fun i p h => hslots ▸ h, by simp⟩

/-- Output of the current generation is fed to the table, and other output is ignored. -/
theorem quiet_onStdout (s : TaskState ρ) (g : Nat) (chunk : List UInt8) :
    Quiet s ((s.onStdout g chunk).1, .none, (s.onStdout g chunk).2) := by
  unfold onStdout
  split
  · exact ⟨rfl, rfl, fun i p h => feed_slots h,
      fun d hd => mem_feed_answer (by simpa using hd)⟩
  · exact quiet_of_table rfl rfl rfl

/-- A replaced process keeps the waiting requests, whether its replacement starts or not. -/
theorem onClosed_table (s : TaskState ρ) (g : Nat) (o : Except String Unit) :
    (s.onClosed g o).nextRequestId = s.nextRequestId ∧
      (s.onClosed g o).table.slots = s.table.slots := by
  unfold onClosed
  split
  · cases o <;> simp [start]
  · exact ⟨rfl, rfl⟩

/-- Every step either serves a request whose process runs or starts, or is quiet. -/
theorem step_cases (s : TaskState ρ) (input : TaskInput ρ) :
    (∃ r start write s', input = .request r start write ∧ s.accepting = true ∧
      s.ensureRunning start = .ok s') ∨ Quiet s (s.step input) := by
  by_cases ha : s.accepting = true
  · cases input with
    | request r start write =>
      rcases hs : s.ensureRunning start with e | s'
      · right
        simp only [step, ha, if_true, submit, hs]
        exact quiet_of_table rfl rfl rfl
      · exact .inl ⟨r, start, write, s', rfl, ha, hs⟩
    | restart start =>
      right
      simp only [step, ha, if_true, restart]
      cases start <;> exact quiet_of_table rfl rfl (by simp [TaskState.start, started])
    | status | shutdown =>
      right
      simp only [step, ha, if_true]
      exact quiet_of_table rfl rfl rfl
    | stdout g chunk =>
      right
      simp only [step, ha, if_true]
      exact quiet_onStdout s g chunk
    | closed g o =>
      right
      simp only [step, ha, if_true]
      exact quiet_of_table rfl (onClosed_table s g o).1 (onClosed_table s g o).2
  · right
    simp only [step, ha]
    exact quiet_of_table rfl rfl rfl

end TaskState

end SwiftDevEnv.Session
