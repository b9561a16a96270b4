import SwiftDevEnv.Cli.Invocation
import SwiftDevEnv.Config.Load
import SwiftDevEnv.Discovery.Workspace
import SwiftDevEnv.Session.Client
import SwiftDevEnv.Platform
import SwiftDevEnv.Json.Printer

/-!
# Running the `sde` tool

A run reads its command line first. It then loads the settings of the user and of the
workspace (the working directory), opens its log file, discovers the workspace's targets,
starts the backend with the settings and the targets, and carries out the command. The answer
is printed as indented JSON; a failure is printed on the error stream after `sde: `, as a
chain of what failed and why, and the run exits with status 1.

Files named on the command line are taken relative to the working directory, as written.
-/

namespace SwiftDevEnv.Cli

open SwiftDevEnv.FileSystem SwiftDevEnv.Backend SwiftDevEnv.Session

/-- Where a run of the tool takes place. -/
structure Environment where
  tree : Tree
  /-- The working directory, which is the workspace. -/
  cwd : String
  home : String
  /-- The login shell, if the environment names one. -/
  shell : Option String
  host : Host := {}
  /-- The programs whose runs are known, such as the package manager. -/
  runs : KnownRuns := []
  /-- How backend processes behave. -/
  backend : Behaviour := .echo

/-- How a run ended: its exit status and what it wrote to its two streams. -/
structure Outcome where
  status : Nat
  stdout : String
  stderr : String
  deriving DecidableEq, Repr

/-- Why a run failed. -/
inductive RunError where
  | usage (message : String)
  | config (e : Config.ConfigError)
  | start (e : Error)
  | read (path : String) (e : IoError)
  | request (e : Error)
  deriving Repr

/-- The messages of an error and of the errors beneath it. -/
def Error.causes (e : Error) : List String :=
  e.message :: match e with
    | .io io => [io.message]
    | _ => []

/-- The messages of a failed run, from what failed down to the first cause. -/
def RunError.causes : RunError → List String
  | .usage m => [m]
  | .config e =>
    ["failed to load configuration", e.message] ++ match e with
      | .io r => [r]
      | _ => []
  | .start e => "failed to start sourcekite" :: Error.causes e
  | .read path e => ["failed to read: " ++ path, e.message]
  | .request e => Error.causes e

/-- The message of a failed run. -/
def RunError.message (e : RunError) : String := ": ".intercalate e.causes

/-- How discovery runs with the settings. -/
def discoveryOptions (c : Config.Settings) : Discovery.Options :=
  ⟨c.compiler.path, c.compiler.compilerOptions,
    c.targets.map fun t => ⟨t.name, ⟨t.path⟩, t.sources, t.compilerArguments⟩⟩

/-- How the backend starts with the settings in a workspace. -/
def serverConfig (c : Config.Settings) (workspace : Path) (shell : Option String) : ServerConfig :=
  let b := c.backend
  { command := b.path, args := b.args, dockerMode := b.dockerMode, dockerImage := b.dockerImage,
    shellPath := (b.shellPath.map (⟨·⟩)).getD (Platform.defaultShell shell),
    toolchainPath := b.toolchainPath, workspacePaths := [workspace], trace := b.trace,
    maxRetries := b.maxRetries }

/-- How edits are formatted with the settings. -/
def formatOptions (c : Config.Settings) : Wire.FormatOptions :=
  ⟨c.format.indentWidth, c.format.tabWidth, c.format.useTabs⟩

/-- Opens the log file, making its directory first: the configured file, or `sde.log` in the
user's log directory. Failures are ignored. -/
def openLog (t : Tree) (cwd : String) (c : Config.Settings) (paths : Platform.UserPaths) : Tree :=
  let file : Path := (c.log.file.map (⟨·⟩)).getD (paths.logDir.push "sde.log")
  let cwdNames := namesOf cwd
  let t := match file.parent? with
    | some dir =>
      if dir.text.isEmpty then t else (t.createDirAll cwdNames dir.text).toOption.getD t
    | none => t
  if t.pathExists cwdNames file.text then t
  else (t.writeFile cwdNames file.text "").toOption.getD t

/-- The path and text of a source file named on the command line. -/
def openSource (t : Tree) (cwd : String) (file : String) : Except RunError (Path × String) :=
  let path := (⟨cwd⟩ : Path).join ⟨file⟩
  match t.readFile [] path.text with
  | .ok text => .ok (path, text)
  | .error e => .error (.read path.text e)

/-- Carries out a command with a started client. -/
def perform (t : Tree) (cwd : String) (c : Config.Settings) :
    Command → ClientM (Except RunError Json.Value)
  | .complete file offset => do
    match openSource t cwd file with
    | .error e => pure (.error e)
    | .ok (path, text) =>
      let r ← completions t text path offset
      pure (r.mapError .request |>.map fun items => .array (items.map Completion.Item.toJson))
  | .cursorInfo file offset => do
    match openSource t cwd file with
    | .error e => pure (.error e)
    | .ok (path, text) => return (← cursorInfo t text path offset).mapError .request
  | .hover file offset => do
    match openSource t cwd file with
    | .error e => pure (.error e)
    | .ok (path, text) =>
      let r ← Session.hover t text path offset
      pure (r.mapError .request |>.map fun h => match h with
        | some h => .ofMembers [("markdown", .string h.markdown), ("hover", h.toJson)]
        | none => .null)
  | .definition file offset => do
    match openSource t cwd file with
    | .error e => pure (.error e)
    | .ok (path, text) =>
      let r ← Session.definition t text path offset
      pure (r.mapError .request |>.map fun l => (l.map Cursor.Location.toJson).getD .null)
  | .demangle names => do return (← demangle t names).mapError .request
  | .format file first last => do
    match openSource t cwd file with
    | .error e => pure (.error e)
    | .ok (path, text) =>
      let r ← formatLines t text path first last (formatOptions c)
      pure (r.mapError .request |>.map fun es => .array (es.map LineEdit.toJson))
  | .targets => do return .ok (.array ((← get).targets.targets.map Target.toJson))

/-- Runs the tool up to its answer. -/
def answer (env : Environment) (args : List String) : Except RunError Json.Value := do
  let command ← (Command.parse args).mapError .usage
  let paths : Platform.UserPaths := ⟨⟨env.home⟩⟩
  let workspace : Path := ⟨env.cwd⟩
  let loaded ← (Config.load env.tree paths.configDir.text (some env.cwd)).mapError .config
  let c := loaded.config
  let t := openLog loaded.tree env.cwd c paths
  let targets := Discovery.discoverTargets t env.runs workspace (discoveryOptions c)
  let server := serverConfig c workspace env.shell
  let session ← (Session.Connection.start t (namesOf env.cwd) server env.backend).mapError .start
  let client : Client := ⟨session, ⟨targets⟩, env.host, server.maxRetries⟩
  (perform t env.cwd c command |>.run client).1

/-- Runs the tool. -/
def run (env : Environment) (args : List String) : Outcome :=
  match answer env args with
  | .ok v => ⟨0, v.pretty ++ "\n", ""⟩
  | .error e => ⟨1, "", "sde: " ++ e.message ++ "\n"⟩

end SwiftDevEnv.Cli
