import SwiftDevEnv.FileSystem.System

/-!
# Running programs to their end

A program run to its end leaves what it wrote to its output and error streams and its exit
code. The runs of some programs are known in advance and listed by the absolute names of their
files. Of the system's tools, `false` writes nothing and fails; any other program whose run is
not listed writes nothing and succeeds. A program that cannot be found or started is an
input-output failure.
-/

namespace SwiftDevEnv.FileSystem

/-- How a program that ran to its end finished. -/
structure Finished where
  stdout : String := ""
  stderr : String := ""
  status : Nat := 0
  deriving DecidableEq, Repr, Inhabited

/-- Whether the program succeeded: its exit code is zero. -/
def Finished.succeeded (f : Finished) : Bool := f.status == 0

/-- How a program ended, as diagnostics say it. -/
def Finished.statusText (f : Finished) : String := s!"exit status: {f.status}"

/-- The programs whose runs are known, by the names of their files. -/
abbrev KnownRuns := List (List String × Finished)

/-- Runs a program from a working directory to its end. -/
def runToEnd (t : Tree) (runs : KnownRuns) (cwd : List String) (program : String) :
    Except Backend.IoError Finished := do
  let names ← locateProgram t cwd program
  match runs.lookup names with
  | some f => pure f
  | none => pure (if names == ["usr", "bin", "false"] then { status := 1 } else {})

end SwiftDevEnv.FileSystem
