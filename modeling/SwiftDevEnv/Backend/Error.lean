import SwiftDevEnv.Text.Utf8

/-!
# Errors of the backend connection

Everything that can go wrong between the editor side and the code-intelligence backend is one
`Backend.Error`: the process could not be started, a request was pushed out of its slot by a
newer one, a response or its frame could not be read, the retries ran out, the process or the
session is gone, an operating-system call failed, or the workspace's targets could not be
found. Each error has one message, a coarse kind, and is retryable exactly when it is a
superseded request or a transport failure.
-/

namespace SwiftDevEnv.Backend

/-- The class of an operating-system failure. -/
inductive IoKind where
  | brokenPipe
  | notFound
  | permissionDenied
  | unexpectedEof
  | other
  deriving DecidableEq, Repr, Inhabited

/-- A failed operating-system call: its class and its message. -/
structure IoError where
  kind : IoKind
  message : String
  deriving DecidableEq, Repr, Inhabited

namespace IoError

/-- A missing file or directory. -/
def noSuchFile : IoError := ⟨.notFound, "No such file or directory (os error 2)"⟩

/-- A path whose directory part is a file. -/
def notADirectory : IoError := ⟨.other, "Not a directory (os error 20)"⟩

/-- A directory where a file was expected. -/
def isADirectory : IoError := ⟨.other, "Is a directory (os error 21)"⟩

/-- Access refused. -/
def permissionDenied : IoError := ⟨.permissionDenied, "Permission denied (os error 13)"⟩

/-- A file that is not UTF-8 text. -/
def invalidText : IoError := ⟨.other, "stream did not contain valid UTF-8"⟩

end IoError

/-- Why a request to the backend failed. -/
inductive Error where
  | spawnFailed (detail : String)
  | superseded (requestId : Nat)
  | malformedResponse (detail : String)
  | malformedFrame (detail : String)
  | transportExhausted (attempts : UInt32)
  | processUnavailable
  | sessionClosed
  | io (e : IoError)
  | discovery (detail : String)
  deriving DecidableEq, Repr, Inhabited

/-- The coarse class of an error. -/
inductive ErrorKind where
  | spawnFailure
  | superseded
  | malformedResponse
  | transportExhausted
  | transport
  | discovery
  deriving DecidableEq, Repr

namespace Error

/-- The message of an error. -/
def message : Error → String
  | .spawnFailed d => s!"failed to start sourcekite: {d}"
  | .superseded r => s!"fail to process the request[reqid={r}]: superseded by a newer request"
  | .malformedResponse d => s!"malformed response: {d}"
  | .malformedFrame d => s!"wrong format for reqid: {d}"
  | .transportExhausted n => s!"Request failed too many times ({n} attempts). Abort."
  | .processUnavailable => "sourcekite process is not running"
  | .sessionClosed => "sourcekite session closed"
  | .io e => s!"I/O error: {e.message}"
  | .discovery d => s!"target discovery failed: {d}"

/-- The class of an error: an unreadable frame counts as a malformed response, and a missing
process, a closed session and operating-system failures as transport failures. -/
def kind : Error → ErrorKind
  | .spawnFailed _ => .spawnFailure
  | .superseded _ => .superseded
  | .malformedResponse _ => .malformedResponse
  | .malformedFrame _ => .malformedResponse
  | .transportExhausted _ => .transportExhausted
  | .processUnavailable => .transport
  | .sessionClosed => .transport
  | .io _ => .transport
  | .discovery _ => .discovery

/-- A request that failed with this error may succeed when sent again after a restart. -/
def isRetryable (e : Error) : Bool :=
  match e.kind with
  | .superseded | .transport => true
  | _ => false

theorem isRetryable_iff (e : Error) :
    e.isRetryable = true ↔ e.kind = .superseded ∨ e.kind = .transport := by
  unfold isRetryable
  cases e.kind <;> simp

end Error

end SwiftDevEnv.Backend
