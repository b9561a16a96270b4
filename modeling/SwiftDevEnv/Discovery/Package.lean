import SwiftDevEnv.Json.Reader
import SwiftDevEnv.Target.Basic

/-!
# Package descriptions

The package manager describes a package as a JSON object whose `modules` (or, in older
versions, `targets`) list the package's modules: each with its name, its directory and its
sources, which may be left out. Other keys are skipped; `modules` wins when both are given, and
a description with neither has no modules.

Each module is a target. Its directory is taken relative to the workspace and its sources
relative to its directory; its arguments search the workspace's debug build directory for
modules, then add the default arguments.
-/

namespace SwiftDevEnv.Discovery

open SwiftDevEnv.Json

/-- The shape of a module of a description. -/
def moduleShape : Shape :=
  .record "ModuleDescription" [("name", .text "a string", .refused),
    ("path", .text "path string", .refused), ("sources", .list (.text "path string"), .defaulted)]

/-- The shape of a description. -/
def descriptionShape : Shape :=
  .record "PackageDescription" [("modules", .optional (.list moduleShape), .nullInObject),
    ("targets", .optional (.list moduleShape), .nullInObject)]

/-- A module of a package. -/
structure ModuleDescription where
  name : String
  path : String
  sources : List String
  deriving DecidableEq, Repr, Inhabited

/-- The string of a value read as one. -/
def textOf (v : Value) : String := v.asString?.getD ""

/-- The items of a value read as a list; null has none. -/
def itemsOf (v : Value) : List Value :=
  match v with
  | .array items => items
  | _ => []

/-- A module out of a value read with the module shape. -/
def ModuleDescription.ofValue (v : Value) : ModuleDescription :=
  ⟨textOf (v.project "name"), textOf (v.project "path"), (itemsOf (v.project "sources")).map textOf⟩

/-- The modules of a description text. -/
def readModules (text : String) : Except ReadError (List ModuleDescription) := do
  let v ← readText descriptionShape text
  let listed := [v.project "modules", v.project "targets"].filter fun m =>
    match m with
    | .null => false
    | _ => true
  pure (((listed.head?.map itemsOf).getD []).map ModuleDescription.ofValue)

/-- The targets of a package's modules in a workspace. -/
def describedTargets (workspace : Path) (defaults : List String) (modules : List ModuleDescription) :
    List Target :=
  let buildDir := (workspace.push ".build").push "debug"
  modules.map fun m =>
    let path := workspace.normalize ⟨m.path⟩
    ⟨m.name, path, SourceSet.ofList (m.sources.map fun s => path.normalize ⟨s⟩),
      ["-I", buildDir.text] ++ defaults⟩

end SwiftDevEnv.Discovery
