import SwiftDevEnv.Platform
import SwiftDevEnv.Backend.Retry

/-!
# Launching the backend

The backend runs either directly, as its command with its arguments, or inside a container:
the shell runs `docker run --rm`, a `-v 'p:p'` volume for each workspace path, `-i` and the
image. The toolchain directory, when configured, is passed in the `TOOLCHAIN_DIR` variable.
-/

namespace SwiftDevEnv.Backend

open SwiftDevEnv.FileSystem SwiftDevEnv.Platform

/-- How to start the backend. -/
structure ServerConfig where
  command : String := "sourcekite"
  args : List String := []
  dockerMode : Bool := false
  dockerImage : String := "jinmingjian/docker-sourcekite"
  shellPath : Path := ⟨"/bin/bash"⟩
  toolchainPath : Option String := none
  workspacePaths : List Path := []
  trace : Bool := false
  maxRetries : UInt32 := defaultMaxRetries
  deriving DecidableEq, Repr, Inhabited

/-- A program to run, its arguments and the variables added to its environment. -/
structure CommandLine where
  program : String
  args : List String
  env : List (String × String)
  deriving DecidableEq, Repr

/-- The shell command that runs the backend in a container. -/
def dockerRun (c : ServerConfig) : String :=
  "docker run --rm " ++ String.join (c.workspacePaths.map fun p => s!"-v '{p.text}:{p.text}' ") ++
    "-i " ++ c.dockerImage

/-- The program that starts the backend from the working directory `cwd`: the resolved shell in
container mode, the command otherwise. -/
def ServerConfig.program (t : Tree) (cwd : List String) (c : ServerConfig) : String :=
  if c.dockerMode then (resolveShell t cwd c.shellPath).text else c.command

/-- The command line that starts the backend from the working directory `cwd`. -/
def ServerConfig.commandLine (t : Tree) (cwd : List String) (c : ServerConfig) : CommandLine :=
  let env := match c.toolchainPath with
    | some dir => [("TOOLCHAIN_DIR", dir)]
    | none => []
  if c.dockerMode then ⟨c.program t cwd, ["-c", dockerRun c], env⟩
  else ⟨c.command, c.args, env⟩

end SwiftDevEnv.Backend
