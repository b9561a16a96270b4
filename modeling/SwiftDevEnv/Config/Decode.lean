import SwiftDevEnv.Config.Basic
import SwiftDevEnv.Toml.Decode

/-!
# Reading settings out of a settings file

Each section of the settings is read as a record: its keys are those of the JSON form, unknown
keys are skipped, and a missing key keeps its default. Texts are strings, paths are strings
read as paths, switches are booleans, the retry count fits in 32 bits and the widths in 8, the
log level is one of its five names, and a declared target must give its name and directory.
-/

namespace SwiftDevEnv.Config

open SwiftDevEnv.Toml

/-- A field whose key may be left out. -/
def optionalField {α : Type} (name : String) (read : Node → α → Decode α) : RecordField α :=
  ⟨name, false, false, read⟩

/-- Reads a list of strings. -/
def readTexts (mode : Mode) (n : Node) : Decode (List String) :=
  readList mode (readText mode "a string") n

/-- Reads a path. -/
def readPath (mode : Mode) (n : Node) : Decode String := readText mode "path string" n

/-- The fields of the backend section. -/
def backendFields (mode : Mode) : List (RecordField BackendSettings) := [
  optionalField "path" fun n b => do return { b with path := ← readText mode "a string" n },
  optionalField "args" fun n b => do return { b with args := ← readTexts mode n },
  optionalField "docker_mode" fun n b => do return { b with dockerMode := ← readBool mode n },
  optionalField "docker_image" fun n b => do return { b with dockerImage := ← readText mode "a string" n },
  optionalField "shell_path" fun n b => do return { b with shellPath := some (← readPath mode n) },
  optionalField "toolchain_path" fun n b => do
    return { b with toolchainPath := some (← readPath mode n) },
  optionalField "trace" fun n b => do return { b with trace := ← readBool mode n },
  optionalField "max_retries" fun n b => do return { b with maxRetries := .ofNat (← readUnsigned mode 32 "u32" n) }]

/-- The fields of the compiler section. -/
def compilerFields (mode : Mode) : List (RecordField CompilerSettings) := [
  optionalField "path" fun n c => do return { c with path := ← readText mode "a string" n },
  optionalField "compiler_options" fun n c => do return { c with compilerOptions := ← readTexts mode n }]

/-- The fields of the format section. -/
def formatFields (mode : Mode) : List (RecordField FormatSettings) := [
  optionalField "indent_width" fun n f => do return { f with indentWidth := .ofNat (← readUnsigned mode 8 "u8" n) },
  optionalField "tab_width" fun n f => do return { f with tabWidth := .ofNat (← readUnsigned mode 8 "u8" n) },
  optionalField "use_tabs" fun n f => do return { f with useTabs := ← readBool mode n }]

/-- The fields of a declared target; the name and the directory must be given. -/
def targetFields (mode : Mode) : List (RecordField TargetEntry) := [
  ⟨"name", true, true, fun n t => do return { t with name := ← readText mode "a string" n }⟩,
  ⟨"path", true, true, fun n t => do return { t with path := ← readPath mode n }⟩,
  optionalField "sources" fun n t => do return { t with sources := some (← readTexts mode n) },
  optionalField "compiler_arguments" fun n t => do
    return { t with compilerArguments := ← readTexts mode n }]

/-- Reads a log level. -/
def readLevel (mode : Mode) (n : Node) : Decode LogLevel := do
  return LogLevel.ofIndex (← readEnum mode (LogLevel.all.map LogLevel.name) n)

/-- The fields of the log section; an array must reach the file. -/
def logFields (mode : Mode) : List (RecordField LogSettings) := [
  optionalField "level" fun n l => do return { l with level := ← readLevel mode n },
  ⟨"file", false, true, fun n l => do return { l with file := some (← readPath mode n) }⟩]

/-- Reads a declared target. -/
def readTarget (mode : Mode) (n : Node) : Decode TargetEntry :=
  readRecord mode "TargetEntry" (targetFields mode) ⟨"", "", none, []⟩ n

/-- The fields of the settings. -/
def configFields (mode : Mode) : List (RecordField Settings) := [
  optionalField "sourcekite" fun n c => do
    return { c with backend := ← readRecord mode "SourcekiteConfig" (backendFields mode) {} n },
  optionalField "swift" fun n c => do
    return { c with compiler := ← readRecord mode "SwiftConfig" (compilerFields mode) {} n },
  optionalField "format" fun n c => do
    return { c with format := ← readRecord mode "FormatConfig" (formatFields mode) {} n },
  optionalField "log" fun n c => do
    return { c with log := ← readRecord mode "LogConfig" (logFields mode) {} n },
  optionalField "targets" fun n c => do return { c with targets := ← readList mode (readTarget mode) n }]

/-- Reads the settings out of a tree. -/
def readConfig (mode : Mode) (n : Node) : Decode Settings :=
  readRecord mode "Config" (configFields mode) {} n

end SwiftDevEnv.Config
