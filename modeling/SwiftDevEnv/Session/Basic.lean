import SwiftDevEnv.Session.Task
import SwiftDevEnv.Backend.Launch
import SwiftDevEnv.FileSystem.System

/-!
# A session with the backend

A session drives the session task with a backend whose processes answer each request as soon as
it is written. A request is submitted to the task, which gives it the next id, counting from
zero over the whole session. The process's whole answer is then fed to the task as output of
the current generation, and the slot table hands it to the waiting request. A process that
exits after answering ends its output and is replaced by a new generation. After shutting
down, the session refuses every command as closed.

The backend process either writes back what it reads, so that each request comes back as its
own answer, or is a script that answers the `k`-th request any of its processes received with
the request's id line and its `k`-th canned reply (the last one once they run out). A canned
reply may make the process exit right after writing it.
-/

namespace SwiftDevEnv.Session

open SwiftDevEnv.Backend SwiftDevEnv.Wire SwiftDevEnv.FileSystem

/-- A canned reply of a scripted backend: its body, and whether the process exits after
writing it. -/
structure Reply where
  body : String
  exitAfter : Bool := false
  deriving DecidableEq, Repr, Inhabited

/-- How backend processes behave. -/
inductive Behaviour where
  /-- Writes back everything it reads. -/
  | echo
  /-- Answers request `k` with reply `min k (n - 1)` of the `n` replies. -/
  | scripted (replies : List Reply)
  deriving DecidableEq, Repr, Inhabited

/-- The state of a session's connection to the backend: how and from which working directory
its processes start, the task, with requests answered straight to their sender, and the number
of requests the processes of a scripted backend have received. -/
structure Connection where
  config : ServerConfig
  cwd : List String
  behaviour : Behaviour
  task : TaskState Unit := {}
  received : Nat := 0

/-- A session operation. -/
abbrev SessionM := StateM Connection

/-- The outcome of starting the backend from the working directory `cwd`: the program must exist
and be executable. -/
def startOutcome (t : Tree) (cwd : List String) (config : ServerConfig) : Except String Unit :=
  let program := config.program t cwd
  match locateProgram t cwd program with
  | .error e => .error (program ++ ": " ++ e.message)
  | .ok _ => .ok ()

/-- Opens a session and starts its first process. -/
def Connection.start (t : Tree) (cwd : List String) (config : ServerConfig)
    (behaviour : Behaviour) : Except Error Connection :=
  (({} : TaskState Unit).start (startOutcome t cwd config)).map fun task =>
    ⟨config, cwd, behaviour, task, 0⟩

/-- The status of a session. -/
def Connection.status (s : Connection) : Status := s.task.status

/-- Fails as closed once the session has shut down. -/
def whenOpen {α : Type} (act : SessionM (Except Error α)) : SessionM (Except Error α) := do
  if (← get).task.accepting then act else pure (.error .sessionClosed)

/-- Reports the status. -/
def status : SessionM (Except Error Status) :=
  whenOpen do pure (.ok (← get).status)

/-- Replaces the backend process with a new one. -/
def restart (t : Tree) : SessionM (Except Error Unit) :=
  whenOpen do
    let s ← get
    let restarted := s.task.restart (startOutcome t s.cwd s.config)
    set { s with task := restarted.1 }
    pure restarted.2

/-- Stops the backend process and the session. -/
def shutdown : SessionM (Except Error Unit) :=
  whenOpen do
    modify fun s => { s with task := (s.task.step .shutdown).1 }
    pure (.ok ())

/-- What the backend process writes for one request, and whether it then exits. -/
def Connection.answerFor (s : Connection) (id : Nat) (payload : String) : String × Bool :=
  match s.behaviour with
  | .echo => (idLine id ++ payload, false)
  | .scripted replies =>
    let r := replies[min s.received (replies.length - 1)]?.getD default
    (idLine id ++ r.body, r.exitAfter)

/-- Sends one request and waits for its raw answer: the answer is the whole output of the
process for it, fed to the task at once. A process that exits after answering is replaced by
a new generation. -/
def send (t : Tree) (payload : String) : SessionM (Except Error String) :=
  whenOpen do
    let s ← get
    let outcome := startOutcome t s.cwd s.config
    let submitted := s.task.submit () outcome (.ok ())
    match submitted.2.1 with
    | .error e => pure (.error e)
    | .ok id =>
      let (output, exits) := s.answerFor id payload
      let fed := submitted.1.onStdout submitted.1.generation output.toUTF8.toList
      let task := if exits then fed.1.onClosed fed.1.generation outcome else fed.1
      set { s with task, received := s.received + 1 }
      match fed.2 with
      | d :: _ => pure d.answer
      | [] => pure (.error .processUnavailable)

end SwiftDevEnv.Session
