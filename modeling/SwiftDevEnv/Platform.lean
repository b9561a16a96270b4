import SwiftDevEnv.FileSystem.Tree

/-!
# Per-user directories and the shell

The configuration lives in `~/.config/sde`, data in `~/.local/share/sde` and logs in its
`logs` directory. A configured shell is used when it exists, and `/usr/bin/sh` otherwise.
-/

namespace SwiftDevEnv.Platform

open SwiftDevEnv.FileSystem

/-- The directories of a user with home directory `home`. -/
structure UserPaths where
  home : Path
  deriving DecidableEq, Repr

namespace UserPaths

/-- Where the configuration lives. -/
def configDir (u : UserPaths) : Path := (u.home.push ".config").push "sde"

/-- Where data lives. -/
def dataDir (u : UserPaths) : Path := ((u.home.push ".local").push "share").push "sde"

/-- Where logs go. -/
def logDir (u : UserPaths) : Path := u.dataDir.push "logs"

end UserPaths

/-- The shell used when the configured one is missing. -/
def fallbackShell : Path := ⟨"/usr/bin/sh"⟩

/-- The login shell, or `/bin/bash` when none is set. -/
def defaultShell (shellVariable : Option String) : Path :=
  ⟨shellVariable.getD "/bin/bash"⟩

/-- The configured shell when it exists in the tree, a relative one looked up from the working
directory `cwd`; the fallback shell otherwise. -/
def resolveShell (t : Tree) (cwd : List String) (configured : Path) : Path :=
  if t.pathExists cwd configured.text then configured else fallbackShell

end SwiftDevEnv.Platform
