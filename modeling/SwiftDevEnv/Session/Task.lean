import SwiftDevEnv.Wire.SlotTable

/-!
# The session task

One task owns the backend process, the slot table of waiting requests and the counter of
request ids. Clients send it commands and the process's reader sends it events; nothing else
touches that state.

A request starts the backend unless one runs, takes the next id, waits in its slot and is
written to the process. A failed start answers it with the error and takes no id; a failed
write answers it through its slot with the write's error. A restart replaces the process and
drops any partial frame, whether the new start succeeds or not. Output of the current
generation is fed to the slot table, and output or the end of output of an earlier generation
is ignored. When the current process ends its output a new one is started, and the partial
frame is dropped when that start succeeds. After a shutdown the task receives nothing more.

Starting a process and writing to it act on the world, so each command or event carries their
outcomes: a start fails with the detail of its error, a write with the failed system call. A
run of the task, with starts and writes failing in any pattern, is then a list of inputs. The
counter is a natural number; the task's 64-bit counter agrees with it for fewer than `2^64`
requests.
-/

namespace SwiftDevEnv.Session

open SwiftDevEnv.Backend SwiftDevEnv.Wire

/-- What a session reports about itself. -/
structure Status where
  running : Bool
  hasPid : Bool
  generation : Nat
  pending : Nat
  nextRequestId : Nat
  deriving DecidableEq, Repr

/-- The state of the session task; waiting requests are answered through receivers of type
`ρ`. -/
structure TaskState (ρ : Type) where
  /-- Whether the task still receives commands and events; a shutdown ends it. -/
  accepting : Bool := true
  /-- Whether a backend process is tracked. -/
  running : Bool := false
  /-- The generation of the last start, counted from one; zero before the first. -/
  generation : Nat := 0
  nextRequestId : Nat := 0
  table : SlotTable ρ := SlotTable.empty

/-- A command of a client or an event of the process, with the outcomes of the starts and
writes it causes. -/
inductive TaskInput (ρ : Type) where
  /-- A request answered through `receiver`: `start` is the outcome of starting the backend
  when none runs, `write` that of writing the request. -/
  | request (receiver : ρ) (start : Except String Unit) (write : Except IoError Unit)
  /-- Replace the process: `start` is the outcome of starting the new one. -/
  | restart (start : Except String Unit)
  | status
  | shutdown
  /-- Output of the process of a generation. -/
  | stdout (generation : Nat) (chunk : List UInt8)
  /-- The end of the output of the process of a generation: `start` is the outcome of starting
  its replacement. -/
  | closed (generation : Nat) (start : Except String Unit)

/-- What the task tells the sender of a command. -/
inductive TaskReply where
  /-- The id a request took, or the error of the start it needed. -/
  | submitted (result : Except Error Nat)
  | restarted (result : Except Error Unit)
  | reported (status : Status)
  | stopped
  /-- Events have no sender, and a task that has stopped receives nothing. -/
  | none

namespace TaskState

variable {ρ : Type}

/-- The task after a start that succeeded: a process of a new generation runs. -/
def started (s : TaskState ρ) : TaskState ρ :=
  { s with running := true, generation := s.generation + 1 }

/-- Starts a process: the task after the start, or the error of a start that failed. -/
def start (s : TaskState ρ) (outcome : Except String Unit) : Except Error (TaskState ρ) :=
  match outcome with
  | .ok () => .ok s.started
  | .error detail => .error (.spawnFailed detail)

/-- Starts a process unless one runs. -/
def ensureRunning (s : TaskState ρ) (outcome : Except String Unit) : Except Error (TaskState ρ) :=
  if s.running then .ok s else s.start outcome

/-- The status the task reports. -/
def status (s : TaskState ρ) : Status :=
  ⟨s.running, s.running, s.generation, s.table.pendingCount, s.nextRequestId⟩

/-- Handles a request: the task after it, the id it took or the error of the start it needed,
and the answers handed out (to the request it superseded, and to itself when the write
failed). -/
def submit (s : TaskState ρ) (receiver : ρ) (start : Except String Unit)
    (write : Except IoError Unit) : TaskState ρ × Except Error Nat × List (Delivery ρ) :=
  match s.ensureRunning start with
  | .error e => (s, .error e, [])
  | .ok s =>
    let id := s.nextRequestId
    let registered := s.table.insert id receiver
    match write with
    | .ok () =>
      ({ s with nextRequestId := id + 1, table := registered.1 }, .ok id, registered.2.toList)
    | .error e =>
      let rejected := registered.1.reject id (.io e)
      ({ s with nextRequestId := id + 1, table := rejected.1 }, .ok id,
        registered.2.toList ++ rejected.2.toList)

/-- Replaces the process and drops any partial frame, whether the new start succeeds or not. -/
def restart (s : TaskState ρ) (outcome : Except String Unit) : TaskState ρ × Except Error Unit :=
  let stopped := { s with running := false }
  match stopped.start outcome with
  | .ok s' => ({ s' with table := s'.table.discardBuffer }, .ok ())
  | .error e => ({ stopped with table := stopped.table.discardBuffer }, .error e)

/-- Feeds output of the current generation to the slot table; output of another generation is
ignored. -/
def onStdout (s : TaskState ρ) (generation : Nat) (chunk : List UInt8) :
    TaskState ρ × List (Delivery ρ) :=
  if generation = s.generation then
    let fed := s.table.feed chunk
    ({ s with table := fed.1 }, fed.2.2.toList)
  else (s, [])

/-- Replaces the running process of the current generation when its output ends. The partial
frame is dropped only when the new start succeeds; when it fails, no process runs. -/
def onClosed (s : TaskState ρ) (generation : Nat) (outcome : Except String Unit) :
    TaskState ρ :=
  if generation = s.generation ∧ s.running = true then
    match { s with running := false }.start outcome with
    | .ok s' => { s' with table := s'.table.discardBuffer }
    | .error _ => { s with running := false }
  else s

/-- One step of the task: the task after it, the reply to the command's sender, and the answers
handed to waiting requests. -/
def step (s : TaskState ρ) (input : TaskInput ρ) : TaskState ρ × TaskReply × List (Delivery ρ) :=
  if s.accepting then
    match input with
    | .request receiver start write =>
      let r := s.submit receiver start write
      (r.1, .submitted r.2.1, r.2.2)
    | .restart start =>
      let r := s.restart start
      (r.1, .restarted r.2, [])
    | .status => (s, .reported s.status, [])
    | .shutdown => ({ s with accepting := false, running := false }, .stopped, [])
    | .stdout generation chunk =>
      let r := s.onStdout generation chunk
      (r.1, .none, r.2)
    | .closed generation start => (s.onClosed generation start, .none, [])
  else (s, .none, [])

/-- Runs inputs in order: the task after the last, and the reply and answers of each step. -/
def run (s : TaskState ρ) : List (TaskInput ρ) → TaskState ρ × List (TaskReply × List (Delivery ρ))
  | [] => (s, [])
  | input :: rest =>
    (((s.step input).1.run rest).1, ((s.step input).2.1, (s.step input).2.2) ::
      ((s.step input).1.run rest).2)

end TaskState

end SwiftDevEnv.Session
