import SwiftDevEnv.Discovery.Manifest
import SwiftDevEnv.Discovery.Package
import SwiftDevEnv.Glob.Set
import SwiftDevEnv.FileSystem.Walk
import SwiftDevEnv.FileSystem.Program
import SwiftDevEnv.Backend.Error

/-!
# Discovering the targets of a workspace

The targets of a workspace come from four sources, consulted in order: the targets declared
in the settings, the manifest of the last build (`.build/debug.yaml`, else
`.build/release.yaml`), the description the package manager gives of the package, and a walk
of the workspace for Swift files. A source that fails gives no targets, and the targets are
flattened so that each file belongs to the first target that names it.

A declared target names its directory, relative to the workspace or absolute, and glob
patterns for its sources, relative to that directory (every Swift file below it when it gives
none). A relative directory that does not exist drops the target. Every file below the
directory, hidden or not, whose relative path matches a pattern is a source.

The walk gives one target named after the workspace, holding every file below it that ends in
`.swift`, skipping what is hidden and `Carthage` checkouts.
-/

namespace SwiftDevEnv.Discovery

open SwiftDevEnv.FileSystem

/-- A target declared in the settings. -/
structure DeclaredTarget where
  name : String
  path : Path
  sources : Option (List String)
  compilerArguments : List String
  deriving DecidableEq, Repr, Inhabited

/-- What discovery is given besides the workspace. -/
structure Options where
  /-- The package manager to ask for the package description. -/
  swiftPath : String := "swift"
  /-- Arguments added to every target of the package description. -/
  defaultCompilerArguments : List String := []
  declared : List DeclaredTarget := []
  deriving DecidableEq, Repr, Inhabited

/-- Why a source of targets failed. -/
inductive DiscoveryError where
  | invalidPattern (text : String) (e : Glob.Error)
  | manifest (e : Yaml.DecodeError)
  | describeFailed (program : String) (ended : Finished)
  | description (e : Json.ReadError)
  | io (e : Backend.IoError)
  deriving Repr

/-- The error as the backend connection reports it. -/
def DiscoveryError.toError : DiscoveryError → Backend.Error
  | .invalidPattern text e => .discovery ("invalid glob '" ++ text ++ "': " ++ e.message)
  | .manifest e => .discovery ("build yaml: " ++ e.text)
  | .describeFailed program ended =>
    .discovery (program ++ " package describe exited with " ++ ended.statusText ++ ": " ++
      Text.trim ended.stderr)
  | .description e => .discovery ("package description: " ++ e.message)
  | .io e => .io e

/-- The patterns of a declared target without its own. -/
def defaultPatterns : List String := ["**/*.swift"]

/-- The files below a directory whose relative paths match a set of patterns. -/
def matchingFiles (t : Tree) (dir : Path) (patterns : Glob.PatternSet) : List Path :=
  (t.walkFiles dir.text fun _ => true).filterMap fun rel =>
    if patterns.matches ("/".intercalate rel) then some (dir.normalize (rel.foldl Path.push dir))
    else none

/-- The targets declared in the settings, with their patterns expanded. -/
def declaredTargets (t : Tree) (workspace : Path) (declared : List DeclaredTarget) :
    Except DiscoveryError (List Target) := do
  let step (acc : List Target) (d : DeclaredTarget) : Except DiscoveryError (List Target) := do
    let path := workspace.normalize d.path
    if !d.path.isAbsolute && !t.pathExists [] path.text then return acc
    let patterns ← (Glob.PatternSet.parse (d.sources.getD defaultPatterns)).mapError
      fun (text, e) => .invalidPattern text e
    let sources := SourceSet.ofList (matchingFiles t path patterns)
    return acc ++ [⟨d.name, path, sources, d.compilerArguments⟩]
  List.foldlM step [] declared

/-- The targets of the last build's manifest. -/
def manifestTargetsOf (t : Tree) (workspace : Path) : Except DiscoveryError (List Target) := do
  let buildDir := workspace.push ".build"
  let text ← match t.readFile [] (buildDir.push "debug.yaml").text with
    | .ok text => pure text
    | .error _ => (t.readFile [] (buildDir.push "release.yaml").text).mapError .io
  let commands ← (manifestCommands text).mapError .manifest
  return manifestTargets workspace commands

/-- The targets of the package description, asked of the package manager in the workspace. -/
def describedTargetsOf (t : Tree) (runs : KnownRuns) (workspace : Path) (o : Options) :
    Except DiscoveryError (List Target) := do
  let ended ← (runToEnd t runs (namesOf workspace.text) o.swiftPath).mapError .io
  if !ended.succeeded then throw (.describeFailed o.swiftPath ended)
  let modules ← (readModules ended.stdout).mapError .description
  return describedTargets workspace o.defaultCompilerArguments modules

/-- Whether the walk for Swift files enters or takes an entry of this name. -/
def walkedName (name : String) : Bool := !name.startsWith "." && name != "Carthage"

/-- The target of every Swift file of the workspace. -/
def swiftFileTarget (t : Tree) (workspace : Path) : Target :=
  let files := (t.walkFiles workspace.text walkedName).map fun rel => rel.foldl Path.push workspace
  let sources := (files.filter (·.extension == some "swift")).map workspace.normalize
  ⟨workspace.fileName.getD "", workspace, SourceSet.ofList sources, []⟩

/-- The targets of a source, or none when it failed. -/
def orNone (r : Except DiscoveryError (List Target)) : List Target :=
  match r with
  | .ok targets => targets
  | .error _ => []

/-- The targets of each source, in the order they are consulted. -/
def providerGroups (t : Tree) (runs : KnownRuns) (workspace : Path) (o : Options) :
    List (List Target) :=
  [orNone (declaredTargets t workspace o.declared), orNone (manifestTargetsOf t workspace),
    orNone (describedTargetsOf t runs workspace o), [swiftFileTarget t workspace]]

/-- Every target of a workspace, each file in the first target that names it. -/
def discoverTargets (t : Tree) (runs : KnownRuns) (workspace : Path) (o : Options) : List Target :=
  flattenUnique (providerGroups t runs workspace o)

end SwiftDevEnv.Discovery
