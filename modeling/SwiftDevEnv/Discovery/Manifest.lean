import SwiftDevEnv.Yaml.Value
import SwiftDevEnv.Target.Basic

/-!
# Build manifests

The last build of a package leaves a manifest, a YAML document whose `commands` mapping names
every command of the build. A command that compiles a module gives the module's name, its
sources, its import paths and its other arguments, as a mapping (or nothing, for a command
with none of them); each source list may be null for none. A command written any other way, or
whose fields do not read so, is not a compile command and is skipped, as is one without
sources.

The manifest itself must read: a mapping (or nothing), whose `commands`, given at most once, is
a mapping (or nothing) of names to any values. Its other keys are skipped. Commands are taken
in the order of their names, and of a name given twice the last command counts.

Each compile command is a target in the workspace directory. Its sources are taken relative to
the workspace, and its arguments are the other arguments, then `-module-name` with the name and
`-Onone` when it is named, then for each import path both a header and a framework search path,
for the compiler and for the C compiler.
-/

namespace SwiftDevEnv.Discovery

open SwiftDevEnv.Yaml

/-- A compile command of a build manifest. -/
structure BuildCommand where
  moduleName : Option String := none
  sources : List String := []
  importPaths : List String := []
  otherArgs : List String := []
  deriving DecidableEq, Repr, Inhabited

/-- The compiler arguments of a command. -/
def BuildCommand.arguments (c : BuildCommand) : List String :=
  c.otherArgs ++ (match c.moduleName with
    | some m => ["-module-name", m, "-Onone"]
    | none => []) ++
  c.importPaths.flatMap fun p => ["-I", "-F"].flatMap fun flag => ["-Xcc", flag, "-Xcc", p, flag, p]

/-- Sets the field of a command that a key names; other keys leave it as it is. -/
def BuildCommand.setField (c : BuildCommand) (key : String) (v : Value) : Option BuildCommand :=
  if key == "module-name" then do return { c with moduleName := ← v.optionalText? }
  else if key == "sources" then do return { c with sources := ← v.texts? }
  else if key == "import-paths" then do return { c with importPaths := ← v.texts? }
  else if key == "other-args" then do return { c with otherArgs := ← v.texts? }
  else some c

/-- The keys of a command's fields, in order. -/
def commandKeys : List String := ["module-name", "sources", "import-paths", "other-args"]

/-- Reads a command: a mapping whose string keys name each field at most once, or null for a
command with nothing. -/
def BuildCommand.ofValue? (v : Value) : Option BuildCommand :=
  match v.untag with
  | .null => some {}
  | .mapping entries => do
    let step (acc : BuildCommand × List String) (entry : Value × Value) :
        Option (BuildCommand × List String) := do
      let (c, seen) := acc
      let key ← entry.1.text?
      if commandKeys.contains key then
        if seen.contains key then none
        else pure (← c.setField key entry.2, key :: seen)
      else pure (c, seen)
    let (c, _) ← entries.foldlM step ({}, [])
    pure c
  | _ => none

/-- Records a command under its name, replacing a command of the same name; names stay in
order. -/
def insertCommand (name : String) (v : Value) : List (String × Value) → List (String × Value)
  | [] => [(name, v)]
  | (n, w) :: rest =>
    if name < n then (name, v) :: (n, w) :: rest
    else if name == n then (name, v) :: rest
    else (n, w) :: insertCommand name v rest

/-- The message of a value that is not the mapping a reader wants. -/
def mappingMismatch (node : Node) (expecting : String) : DecodeError :=
  match node with
  | .scalar tag text style => .message (scalarMismatch tag text style expecting) none
  | .sequenceStart _ => .message (Decoding.invalidType .seq expecting) none
  | _ => .endOfStream

/-- Reads the mapping of names to commands. -/
def readCommands (doc : Document) : Nat → Reading → NodePath → Nat →
    Except DecodeError (List (String × Value) × Reading)
  | 0, _, _, _ => .error .endOfStream
  | fuel + 1, r, path, depth => do
    let (node, m) ← doc.at r
    let r1 := { r with pos := r.pos + 1 }
    let result : Except DecodeError (List (String × Value) × Reading) :=
      match node with
      | .alias id => do
        let r2 ← doc.jump r1 id
        let (cs, _) ← readCommands doc fuel r2 (.alias path) depth
        pure (cs, r1)
      | .mappingStart _ =>
        if depth == 0 then .error (.recursionLimit m)
        else do
          let mut r := r1
          let mut commands : List (String × Value) := []
          for _ in [0:fuel] do
            let (key, _) ← doc.at r
            match key with
            | .mappingEnd | .void => break
            | _ =>
              let valuePath := match key with
                | .scalar _ t _ => NodePath.map path t
                | _ => .unknown path
              let (name, r2) ← doc.readText r path "a string"
              let (v, r3) ← readValue doc fuel r2 valuePath (depth - 1) false
              commands := insertCommand name v commands
              r := r3
          pure (commands, { r with pos := r.pos + 1 })
      | node =>
        if node.readsAsEmpty then .ok ([], r1) else .error (mappingMismatch node "a map")
    result.mapError (DecodeError.locate m path.text)

/-- Reads a manifest document: its commands, by name. -/
def readManifest (doc : Document) : Nat → Reading → NodePath → Nat →
    Except DecodeError (List (String × Value))
  | 0, _, _, _ => .error .endOfStream
  | fuel + 1, r, path, depth => do
    let (node, m) ← doc.at r
    let r1 := { r with pos := r.pos + 1 }
    let result : Except DecodeError (List (String × Value)) :=
      match node with
      | .alias id => do
        let r2 ← doc.jump r1 id
        readManifest doc fuel r2 (.alias path) depth
      | .mappingStart _ =>
        if depth == 0 then .error (.recursionLimit m)
        else do
          let mut r := r1
          let mut commands : Option (List (String × Value)) := none
          for _ in [0:fuel] do
            let (key, _) ← doc.at r
            match key with
            | .mappingEnd | .void => break
            | _ =>
              let valuePath := match key with
                | .scalar _ t _ => NodePath.map path t
                | _ => .unknown path
              let (name, r2) ← doc.readText r path "field identifier"
              if name == "commands" then
                if commands.isSome then throw (.message "duplicate field \x60commands\x60" none)
                let (cs, r3) ← readCommands doc fuel r2 valuePath (depth - 1)
                commands := some cs
                r := r3
              else r ← doc.skipNode fuel 0 r2
          pure (commands.getD [])
      | node =>
        if node.readsAsEmpty then .ok [] else .error (mappingMismatch node "struct BuildYaml")
    result.mapError (DecodeError.locate m path.text)

/-- Reads the commands of a manifest text, which must hold a single document. -/
def manifestCommands (text : String) : Except DecodeError (List (String × Value)) := do
  match loadDocument true (Parser.start (Input.ofString text)) with
  | (none, _) => .error .endOfStream
  | (some doc, rest) =>
    let commands ← readManifest doc doc.fuel ⟨0, 0⟩ .root depthLimit
    if let some e := doc.error then throw e
    match rest with
    | none => pure commands
    | some p =>
      match loadDocument false p with
      | (none, _) => pure commands
      | (some _, _) => throw .moreThanOneDocument

/-- The targets of the compile commands of a manifest, in a workspace. -/
def manifestTargets (workspace : Path) (commands : List (String × Value)) : List Target :=
  commands.filterMap fun (name, v) => do
    let c ← BuildCommand.ofValue? v
    if c.sources.isEmpty then none
    else some ⟨c.moduleName.getD name, workspace,
      SourceSet.ofList (c.sources.map fun s => workspace.normalize ⟨s⟩), c.arguments⟩

end SwiftDevEnv.Discovery
