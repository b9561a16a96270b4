/-!
# The host machine

The compiler arguments that the backend needs depend on the machine it runs on: its operating
system and processor architecture.
-/

namespace SwiftDevEnv

/-- Operating systems. -/
inductive OsKind where
  | linux
  | macos
  | windows
  | unknown
  deriving DecidableEq, Repr, Inhabited

/-- Processor architectures. -/
inductive Arch where
  | x86_64
  | aarch64
  | unknown
  deriving DecidableEq, Repr, Inhabited

/-- A host: its operating system and architecture. -/
structure Host where
  os : OsKind := .linux
  arch : Arch := .x86_64
  deriving DecidableEq, Repr, Inhabited

end SwiftDevEnv
