import SwiftDevEnv.Cli.Run

/-!
# The `sde` command line

The program reads its arguments, the working directory and the `HOME` and `SHELL` variables,
takes in the files a run may read (the settings of the user and of the workspace and its
parents, the build manifests and the file named on the command line), runs the tool on them
and prints its answer. Backend processes write back what they read.
-/

namespace SwiftDevEnv.Main

open SwiftDevEnv.FileSystem

/-- The files a run with these arguments may read, besides the settings of the parents. -/
def wantedFiles (cwd home : String) (args : List String) : List String :=
  let named := match args with
    | _ :: file :: _ => [(⟨cwd⟩ : Path).join ⟨file⟩ |>.text]
    | _ => []
  [home ++ "/.config/sde/config.toml", cwd ++ "/.build/debug.yaml", cwd ++ "/.build/release.yaml"] ++
    ((List.range ((namesOf cwd).length + 1)).map fun k =>
      "/" ++ String.join (((namesOf cwd).take k).map (· ++ "/")) ++ ".sde/config.toml") ++ named

/-- Adds the files that can be read to a tree. -/
def takeIn (t : Tree) : List String → IO Tree
  | [] => pure t
  | path :: rest => do
    let t ← try
        let text ← IO.FS.readFile path
        pure (t.addFile (namesOf path) text false)
      catch _ => pure t
    takeIn t rest

end SwiftDevEnv.Main

/-- Runs the `sde` tool. -/
def main (args : List String) : IO UInt32 := do
  let cwd := (← IO.currentDir).toString
  let home := (← IO.getEnv "HOME").getD "/"
  let shell ← IO.getEnv "SHELL"
  let t := SwiftDevEnv.FileSystem.systemTree.addDirectory (SwiftDevEnv.FileSystem.namesOf cwd)
  let t ← SwiftDevEnv.Main.takeIn t (SwiftDevEnv.Main.wantedFiles cwd home args)
  let outcome := SwiftDevEnv.Cli.run ⟨t, cwd, home, shell, {}, [], .echo⟩ args
  IO.print outcome.stdout
  IO.eprint outcome.stderr
  pure outcome.status.toUInt32
