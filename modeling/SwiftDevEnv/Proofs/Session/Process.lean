import Mathlib
import SwiftDevEnv.Proofs.Session.Task

/-!
# Process generations

Every process the task starts gets the next generation number, and the output it sends carries
that number, so output and the end of output of a replaced process can arrive after its
replacement started. The task ignores them: an event of another generation changes nothing.

A step starts a process in three places only: a request that finds none running, a restart,
which stops the old one first, and the end of output of the running process of the current
generation, which replaces it. `spawnOutcome` names the start a step makes. A start that
succeeds raises the generation by one and leaves a process running; one that fails leaves no
process and the generation as it was; nothing else moves the generation. Over a run the
generation therefore counts the starts that succeeded. A restart or a replacement keeps every
waiting request and the id counter.
-/

namespace SwiftDevEnv.Session

open SwiftDevEnv.Backend SwiftDevEnv.Wire

namespace TaskState

variable {ρ : Type} {s : TaskState ρ}

/-- The outcome of the start a step makes, if it makes one: a request that finds no process
running, a restart, or the end of output of the running process of the current generation. A
task that has stopped starts nothing. -/
def spawnOutcome (s : TaskState ρ) : TaskInput ρ → Option (Except String Unit)
  | .request _ o _ => if s.accepting = true ∧ s.running = false then some o else none
  | .restart o => if s.accepting = true then some o else none
  | .closed g o =>
    if s.accepting = true ∧ g = s.generation ∧ s.running = true then some o else none
  | _ => none

/-- The outcomes of the starts a run makes, in order. -/
def spawns (s : TaskState ρ) : List (TaskInput ρ) → List (Except String Unit)
  | [] => []
  | input :: rest => (s.spawnOutcome input).toList ++ (s.step input).1.spawns rest

/-- What a step does to the process: the start it makes, if any, raises the generation and leaves a
process running when it succeeds, and leaves none running and the generation as it was when it
fails; a step that starts nothing keeps the generation. A request starts a process only when none
runs, and only the end of output of the running current process starts a replacement. -/
theorem step_process (s : TaskState ρ) (input : TaskInput ρ) :
    (s.spawnOutcome input = some (.ok ()) ∧ (s.step input).1.generation = s.generation + 1 ∧
      (s.step input).1.running = true) ∨
    (∃ e, s.spawnOutcome input = some (.error e) ∧ (s.step input).1.generation = s.generation ∧
      (s.step input).1.running = false) ∨
    (s.spawnOutcome input = none ∧ (s.step input).1.generation = s.generation) := by
  by_cases ha : s.accepting = true
  · cases input with
    | request r o w =>
      cases hr : s.running
      · cases o with
        | ok u => cases w <;> simp [spawnOutcome, step, submit, ensureRunning, start, ha, hr]
        | error e => simp [spawnOutcome, step, submit, ensureRunning, start, ha, hr]
      · cases w <;> simp [spawnOutcome, step, submit, ensureRunning, ha, hr]
    | restart o => cases o <;> simp [spawnOutcome, step, restart, start, ha]
    | status | shutdown => simp [spawnOutcome, step, ha]
    | stdout g chunk =>
      simp only [spawnOutcome, step, ha, if_true, onStdout]
      split <;> simp
    | closed g o =>
      by_cases hlive : g = s.generation ∧ s.running = true
      · cases o <;> simp [spawnOutcome, step, onClosed, start, ha, hlive]
      · simp [spawnOutcome, step, onClosed, ha, hlive]
  · cases input <;> simp [spawnOutcome, step, ha]

/-- A step raises the generation by one exactly when it starts a process successfully. -/
theorem step_generation (s : TaskState ρ) (input : TaskInput ρ) :
    (s.step input).1.generation =
      s.generation + if s.spawnOutcome input = some (.ok ()) then 1 else 0 := by
  rcases step_process s input with ⟨h, hg, -⟩ | ⟨e, h, hg, -⟩ | ⟨h, hg⟩ <;> simp [h, hg]

/-- A start that fails leaves no process running. -/
theorem step_running_of_spawn_error {input : TaskInput ρ} {e : String}
    (h : s.spawnOutcome input = some (.error e)) : (s.step input).1.running = false := by
  rcases step_process s input with ⟨h', -⟩ | ⟨e', -, -, hr⟩ | ⟨h', -⟩
  · simp [h] at h'
  · exact hr
  · simp [h] at h'

@[simp] theorem spawns_nil (s : TaskState ρ) : s.spawns [] = [] := rfl

/-- Over a run the generation rises by the number of starts that succeed. -/
theorem run_generation (s : TaskState ρ) (inputs : List (TaskInput ρ)) :
    (s.run inputs).1.generation = s.generation + (s.spawns inputs).count (.ok ()) := by
  induction inputs generalizing s with
  | nil => simp
  | cons input rest ih =>
    rw [run_cons_fst, ih, spawns, List.count_append, step_generation]
    rcases h : s.spawnOutcome input with _ | o
    · simp
    · by_cases ho : o = .ok ()
      · simp [ho]
        omega
      · simp [ho]

/-- Output of another generation changes nothing. -/
theorem step_stdout_stale {g : Nat} (chunk : List UInt8) (h : g ≠ s.generation) :
    s.step (.stdout g chunk) = (s, .none, []) := by
  by_cases ha : s.accepting = true <;> simp [step, onStdout, ha, h]

/-- The end of output changes nothing unless it is that of the running process of the current
generation. -/
theorem step_closed_stale {g : Nat} (o : Except String Unit)
    (h : ¬(g = s.generation ∧ s.running = true)) : s.step (.closed g o) = (s, .none, []) := by
  by_cases ha : s.accepting = true <;> simp [step, onClosed, ha, h]

/-- A request that finds a process running starts none, whatever the start would do. -/
theorem step_request_of_running (r : ρ) (o : Except String Unit) (w : Except IoError Unit)
    (h : s.running = true) :
    (s.step (.request r o w)).1.running = true ∧ (s.step (.request r o w)).1.generation = s.generation := by
  by_cases ha : s.accepting = true
  · cases w <;> simp [step, submit, ensureRunning, ha, h]
  · simp [step, ha, h]

/-- A restart keeps every waiting request and the id counter, and answers none. -/
theorem step_restart_requests (o : Except String Unit) :
    (s.step (.restart o)).1.table.slots = s.table.slots ∧
      (s.step (.restart o)).1.nextRequestId = s.nextRequestId ∧ (s.step (.restart o)).2.2 = [] := by
  by_cases ha : s.accepting = true
  · cases o <;> simp [step, restart, start, ha]
  · simp [step, ha]

/-- The end of output keeps every waiting request and the id counter, and answers none. -/
theorem step_closed_requests (g : Nat) (o : Except String Unit) :
    (s.step (.closed g o)).1.table.slots = s.table.slots ∧
      (s.step (.closed g o)).1.nextRequestId = s.nextRequestId ∧ (s.step (.closed g o)).2.2 = [] := by
  by_cases ha : s.accepting = true
  · rw [step, if_pos ha]
    exact ⟨(onClosed_table s g o).2, (onClosed_table s g o).1, rfl⟩
  · simp [step, ha]

end TaskState

open TaskState

/-- In every state of the task: output, or the end of output, of another generation than the
current one changes nothing (the end of output also when no process runs); a step raises the
generation by one exactly when it starts a process successfully, and a start that fails leaves
none running, so over every run the generation rises by the number of successful starts; a
request that finds a process running starts none; and a restart or the end of output keeps
every waiting request and the id counter and answers no request. -/
theorem generation_counts_successful_starts {ρ : Type} (s : TaskState ρ)
    (inputs : List (TaskInput ρ)) :
    (∀ g chunk, g ≠ s.generation → s.step (.stdout g chunk) = (s, .none, [])) ∧
    (∀ g o, ¬(g = s.generation ∧ s.running = true) → s.step (.closed g o) = (s, .none, [])) ∧
    (∀ input, (s.step input).1.generation =
      s.generation + if s.spawnOutcome input = some (.ok ()) then 1 else 0) ∧
    (∀ input e, s.spawnOutcome input = some (.error e) → (s.step input).1.running = false) ∧
    (s.run inputs).1.generation = s.generation + (s.spawns inputs).count (.ok ()) ∧
    (∀ r o w, s.running = true →
      (s.step (.request r o w)).1.running = true ∧
        (s.step (.request r o w)).1.generation = s.generation) ∧
    (∀ o, (s.step (.restart o)).1.table.slots = s.table.slots ∧
      (s.step (.restart o)).1.nextRequestId = s.nextRequestId ∧ (s.step (.restart o)).2.2 = []) ∧
    (∀ g o, (s.step (.closed g o)).1.table.slots = s.table.slots ∧
      (s.step (.closed g o)).1.nextRequestId = s.nextRequestId ∧
      (s.step (.closed g o)).2.2 = []) :=
  ⟨fun _ chunk h => step_stdout_stale chunk h, fun _ o h => step_closed_stale o h,
    step_generation s, fun _ _ h => step_running_of_spawn_error h, run_generation s inputs,
    fun r o w h => step_request_of_running r o w h, fun o => step_restart_requests o,
    fun g o => step_closed_requests g o⟩

/-- A started task ignores a late chunk of generation 0 and a late end of output of generation
0, and a request while its process runs starts nothing. -/
theorem late_events_of_generation_zero_ignored :
    0 ≠ ({} : TaskState Unit).started.generation ∧
      ({} : TaskState Unit).started.step (.stdout 0 [48]) = (({} : TaskState Unit).started, .none, []) ∧
      ¬(0 = ({} : TaskState Unit).started.generation ∧ ({} : TaskState Unit).started.running = true) ∧
      ({} : TaskState Unit).started.step (.closed 0 (.ok ())) =
        (({} : TaskState Unit).started, .none, []) ∧
      ({} : TaskState Unit).started.running = true ∧
      (({} : TaskState Unit).started.step (.request () (.ok ()) (.ok ()))).1.generation =
        ({} : TaskState Unit).started.generation :=
  have h := generation_counts_successful_starts ({} : TaskState Unit).started []
  ⟨by decide, h.1 0 [48] (by decide), by decide, h.2.1 0 (.ok ()) (by decide), rfl,
    (h.2.2.2.2.2.1 () (.ok ()) (.ok ()) rfl).2⟩

end SwiftDevEnv.Session
