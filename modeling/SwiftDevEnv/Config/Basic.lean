import SwiftDevEnv.Json.Value
import SwiftDevEnv.Toml.Node

/-!
# Settings

The settings of the environment come in five sections: how to start the code-intelligence
backend, where the compiler is and which options it gets, how edits are formatted, how much is
logged and where, and the build targets declared by hand. Every setting has a default, except
the name and directory of a declared target.

The settings have two written forms: a JSON object, where a missing optional setting is `null`,
and the plain value of a settings file, where it is left out.
-/

namespace SwiftDevEnv.Config

open SwiftDevEnv.Json

/-- How much is logged, from everything to errors only. -/
inductive LogLevel where
  | trace
  | debug
  | info
  | warn
  | error
  deriving DecidableEq, Repr, Inhabited

namespace LogLevel

/-- The levels in order, from the most verbose. -/
def all : List LogLevel := [.trace, .debug, .info, .warn, .error]

/-- The name of a level, as written in settings and as a log filter. -/
def name : LogLevel → String
  | .trace => "trace"
  | .debug => "debug"
  | .info => "info"
  | .warn => "warn"
  | .error => "error"

/-- The level at a place of `all`. -/
def ofIndex (i : Nat) : LogLevel := all[i]?.getD .info

end LogLevel

/-- How the code-intelligence backend is started. -/
structure BackendSettings where
  path : String := "sourcekite"
  args : List String := []
  dockerMode : Bool := false
  dockerImage : String := "jinmingjian/docker-sourcekite"
  shellPath : Option String := none
  toolchainPath : Option String := none
  trace : Bool := false
  maxRetries : UInt32 := 5
  deriving DecidableEq, Repr, Inhabited

/-- Where the compiler is and the options it always gets. -/
structure CompilerSettings where
  path : String := "swift"
  compilerOptions : List String := []
  deriving DecidableEq, Repr, Inhabited

/-- How edits are formatted. -/
structure FormatSettings where
  indentWidth : UInt8 := 4
  tabWidth : UInt8 := 4
  useTabs : Bool := false
  deriving DecidableEq, Repr, Inhabited

/-- A build target declared by hand: its name, directory, source patterns and arguments. -/
structure TargetEntry where
  name : String
  path : String
  sources : Option (List String)
  compilerArguments : List String
  deriving DecidableEq, Repr, Inhabited

/-- How much is logged and to which file. -/
structure LogSettings where
  level : LogLevel := .info
  file : Option String := none
  deriving DecidableEq, Repr, Inhabited

/-- All settings. -/
structure Settings where
  backend : BackendSettings := {}
  compiler : CompilerSettings := {}
  format : FormatSettings := {}
  log : LogSettings := {}
  targets : List TargetEntry := []
  deriving DecidableEq, Repr, Inhabited

namespace Settings

/-- The log filter the settings ask for. -/
def logFilter (c : Settings) : String := c.log.level.name

/-- A text, or `null` when absent. -/
def optionalText (s : Option String) : Value := (s.map Value.string).getD .null

/-- The JSON form of the settings. -/
def toJson (c : Settings) : Value :=
  let b := c.backend
  .ofMembers [
    ("sourcekite", .ofMembers [("path", .string b.path), ("args", .ofStrings b.args),
      ("docker_mode", .bool b.dockerMode), ("docker_image", .string b.dockerImage),
      ("shell_path", optionalText b.shellPath), ("toolchain_path", optionalText b.toolchainPath),
      ("trace", .bool b.trace), ("max_retries", .ofNat b.maxRetries.toNat)]),
    ("swift", .ofMembers [("path", .string c.compiler.path),
      ("compiler_options", .ofStrings c.compiler.compilerOptions)]),
    ("format", .ofMembers [("indent_width", .ofNat c.format.indentWidth.toNat),
      ("tab_width", .ofNat c.format.tabWidth.toNat), ("use_tabs", .bool c.format.useTabs)]),
    ("log", .ofMembers [("level", .string c.log.level.name), ("file", optionalText c.log.file)]),
    ("targets", .array (c.targets.map fun t => .ofMembers [("name", .string t.name),
      ("path", .string t.path),
      ("sources", (t.sources.map Value.ofStrings).getD .null),
      ("compiler_arguments", .ofStrings t.compilerArguments)]))]

end Settings

section Plain

open SwiftDevEnv.Toml

/-- A plain string value. -/
def plainText (s : String) : Node := .string s none

/-- A plain array of strings. -/
def plainTexts (xs : List String) : Node := .array (xs.map plainText) none

/-- A plain table of the given entries, sorted by key; absent entries are left out. -/
def plainTable (entries : List (String × Option Node)) : Node :=
  .table (sortEntries (entries.filterMap fun (k, v) => v.map fun n => (⟨k, none⟩, n))) Shape.plain none

/-- The plain value of the settings, as a settings file would hold them. -/
def Settings.toNode (c : Settings) : Node :=
  let b := c.backend
  plainTable [
    ("sourcekite", some (plainTable [("path", some (plainText b.path)),
      ("args", some (plainTexts b.args)), ("docker_mode", some (.boolean b.dockerMode none)),
      ("docker_image", some (plainText b.dockerImage)), ("shell_path", b.shellPath.map plainText),
      ("toolchain_path", b.toolchainPath.map plainText), ("trace", some (.boolean b.trace none)),
      ("max_retries", some (.integer b.maxRetries.toNat none))])),
    ("swift", some (plainTable [("path", some (plainText c.compiler.path)),
      ("compiler_options", some (plainTexts c.compiler.compilerOptions))])),
    ("format", some (plainTable [("indent_width", some (.integer c.format.indentWidth.toNat none)),
      ("tab_width", some (.integer c.format.tabWidth.toNat none)),
      ("use_tabs", some (.boolean c.format.useTabs none))])),
    ("log", some (plainTable [("level", some (plainText c.log.level.name)),
      ("file", c.log.file.map plainText)])),
    ("targets", some (.array (c.targets.map fun t => plainTable [("name", some (plainText t.name)),
      ("path", some (plainText t.path)), ("sources", t.sources.map plainTexts),
      ("compiler_arguments", some (plainTexts t.compilerArguments))]) none))]

end Plain

end SwiftDevEnv.Config
