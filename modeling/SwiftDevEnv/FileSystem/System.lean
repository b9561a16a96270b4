import SwiftDevEnv.FileSystem.Tree

/-!
# The system part of the file tree

Programs run on a Linux system whose tree has the usual top-level directories, `/bin` as a link
to `/usr/bin`, and the shell and the standard tools there. Programs named without a slash are
looked up in the directories of the search path, in order.
-/

namespace SwiftDevEnv.FileSystem

/-- Programs of the system, in `/usr/bin`. -/
def systemPrograms : List String :=
  ["sh", "bash", "dash", "cat", "env", "ls", "true", "false", "printf", "echo", "mkdir", "rm"]

/-- The tree of a freshly installed system. -/
def systemTree : Tree :=
  let dirs : List (List String) :=
    [["usr"], ["usr", "bin"], ["usr", "sbin"], ["usr", "local"], ["usr", "local", "bin"],
      ["usr", "local", "sbin"], ["usr", "lib"], ["etc"], ["tmp"], ["home"], ["root"], ["opt"],
      ["var"], ["dev"], ["proc"]]
  let t := dirs.foldl (fun t d => t.addDirectory d) Tree.empty
  let t := systemPrograms.foldl (fun t p => t.addFile ["usr", "bin", p] "" true) t
  let t := t.addSymlink ["bin"] "usr/bin"
  let t := t.addSymlink ["sbin"] "usr/sbin"
  t.addSymlink ["lib"] "usr/lib"

/-- The program search path. -/
def searchPath : List String :=
  ["/usr/local/sbin", "/usr/local/bin", "/usr/sbin", "/usr/bin", "/sbin", "/bin"]

/-- Why a program cannot be started, or the absolute names of its file. -/
def locateProgram (t : Tree) (cwd : List String) (program : String) :
    Except Backend.IoError (List String) :=
  let check (text : String) : Except Backend.IoError (List String) :=
    match t.resolve cwd text with
    | .ok (names, some (.file _ true)) => .ok names
    | .ok (_, some (.file _ false)) => .error Backend.IoError.permissionDenied
    | .ok (_, some .directory) => .error Backend.IoError.permissionDenied
    | .ok (_, _) => .error Backend.IoError.noSuchFile
    | .error e => .error e
  if program = "" then .error Backend.IoError.noSuchFile
  else if (program.splitOn "/").length > 1 then check program
  else
    match searchPath.find? (fun dir => (check (dir ++ "/" ++ program)).toBool) with
    | some dir => check (dir ++ "/" ++ program)
    | none => .error Backend.IoError.noSuchFile

end SwiftDevEnv.FileSystem
