import SwiftDevEnv.Config.Layers
import SwiftDevEnv.FileSystem.Tree
import SwiftDevEnv.Text.Blank

/-!
# Loading the settings of a user and a project

The settings are loaded in layers over the defaults. The user's layer is `config.toml` in the
settings directory; the directory is made when missing, and the file is written with a
commented template when missing. The file counts only when some line of it is neither blank
nor a comment. The project's layer is the first `.sde/config.toml` found in the project
directory or, going up, in one of its parents. The merged settings must be in range; the first
violation is reported.

A file that cannot be read or a directory that cannot be made is an input-output failure; a
template that cannot be written is a failure to create the default.
-/

namespace SwiftDevEnv.Config

open SwiftDevEnv.FileSystem

/-- The template written when the user has no settings file. -/
def templateText : String :=
  "# sde configuration\n" ++
  "# Uncomment and edit settings below to override defaults.\n" ++
  "\n" ++
  "# [sourcekite]\n" ++
  "# path = \"sourcekite\"\n" ++
  "# args = []\n" ++
  "# docker_mode = false\n" ++
  "# docker_image = \"jinmingjian/docker-sourcekite\"\n" ++
  "# shell_path = \"/bin/bash\"  # defaults to $SHELL\n" ++
  "# toolchain_path = \"/Library/Developer/Toolchains/swift-latest.xctoolchain\"\n" ++
  "# trace = false\n" ++
  "# max_retries = 5\n" ++
  "\n" ++
  "# [swift]\n" ++
  "# path = \"swift\"\n" ++
  "# compiler_options = []\n" ++
  "\n" ++
  "# [format]\n" ++
  "# indent_width = 4\n" ++
  "# tab_width = 4\n" ++
  "# use_tabs = false\n" ++
  "\n" ++
  "# [log]\n" ++
  "# level = \"info\"\n" ++
  "\n" ++
  "# [[targets]]\n" ++
  "# name = \"App\"\n" ++
  "# path = \"Sources/App\"\n" ++
  "# sources = [\"**/*.swift\"]\n" ++
  "# compiler_arguments = []\n"

/-- Whether a settings text has a line that is neither blank nor a comment. -/
def hasSettings (text : String) : Bool :=
  (text.splitOn "\n").any fun line =>
    let t := Text.trim line
    !t.isEmpty && !t.startsWith "#"

/-- The name of the project settings directory. -/
def projectDirName : String := ".sde"

/-- The project settings file that applies to a directory: the first that exists, from the
directory up to the root. -/
def findProjectFile (t : Tree) (dir : String) : Option String :=
  let names := namesOf dir
  let candidates := (List.range (names.length + 1)).reverse.map fun k =>
    "/" ++ String.join ((names.take k).map (· ++ "/")) ++ projectDirName ++ "/config.toml"
  candidates.find? (t.pathExists [])

/-- What loading gave: the settings, the tree afterwards and whether the template was
written. -/
structure Loaded where
  config : Settings
  tree : Tree
  createdDefault : Bool

/-- Loads the settings of a user's settings directory and, when given, a project directory. -/
def load (t : Tree) (configDir : String) (projectDir : Option String) : Except ConfigError Loaded := do
  let userFile := configDir ++ "/config.toml"
  let t ← if t.pathExists [] configDir then pure t
    else (t.createDirAll [] configDir).mapError fun e => .io e.message
  let (t, created) ← if t.pathExists [] userFile then pure (t, false)
    else do
      let t ← (t.writeFile [] userFile templateText).mapError fun e => .createDefault e.message
      pure (t, true)
  let userText ← (t.readFile [] userFile).mapError fun e => .io e.message
  let c ← if hasSettings userText then Settings.overlay {} userText else pure {}
  let c ← match projectDir.bind (findProjectFile t) with
    | some file => do
      let text ← (t.readFile [] file).mapError fun e => .io e.message
      c.overlay text
    | none => pure c
  match c.problems with
  | [] => pure ⟨c, t, created⟩
  | e :: _ => .error e

end SwiftDevEnv.Config
