import SwiftDevEnv.Path
import SwiftDevEnv.Backend.Error

/-!
# File trees

The workspace, the configuration directories and the programs the backend connection starts
live in a file tree: directories, files with their text and whether they may be executed, and
symbolic links. Paths are resolved the POSIX way, component by component from the root or a
working directory: `.` stays, `..` goes up, a link is replaced by its target (relative targets
from the link's directory), and a trailing slash asks for a directory.

Failures carry the operating system's messages: a missing component, a file used as a
directory, a directory read as a file, and a chain of more than forty links.
-/

namespace SwiftDevEnv.FileSystem

open SwiftDevEnv.Backend

/-- What a path of a tree holds. -/
inductive Node where
  | directory
  | file (contents : String) (executable : Bool)
  | symlink (target : String)
  deriving DecidableEq, Repr

/-- A file tree: each absolute path, as its list of names, with what it holds. -/
structure Tree where
  entries : List (List String × Node)
  deriving Repr, Inhabited

/-- Too many links. -/
def loopError : IoError := ⟨.other, "Too many levels of symbolic links (os error 40)"⟩

/-- A directory entry that already exists. -/
def existsError : IoError := ⟨.other, "File exists (os error 17)"⟩

namespace Tree

/-- The empty tree: only the root directory. -/
def empty : Tree := ⟨[([], .directory)]⟩

/-- What the tree holds at a path of names. -/
def node? (t : Tree) (names : List String) : Option Node :=
  (t.entries.find? (·.1 == names)).map (·.2)

/-- Sets what the tree holds at a path of names. -/
def set (t : Tree) (names : List String) (n : Node) : Tree :=
  ⟨(names, n) :: t.entries.filter (·.1 != names)⟩

/-- The names of the entries directly inside a directory, sorted. -/
def children (t : Tree) (names : List String) : List String :=
  let direct := t.entries.filterMap fun (p, _) =>
    if p.length = names.length + 1 && p.take names.length == names then p.getLast? else none
  direct.mergeSort (· ≤ ·)

/-- The outcome of resolving a path: the names of the place and what it holds, `none` when the
last component is missing from a directory that exists. -/
abbrev Resolved := Except IoError (List String × Option Node)

/-- The parts of a path text; empty parts and `.` are kept for the walk to skip. -/
def partsOf (text : String) : List String := (text.toList.splitOn '/').map String.ofList

/-- Resolves parts from a directory, following links in the middle and, when `follow`, at
the end. `links` bounds the number of links followed. -/
def walk (t : Tree) (follow : Bool) : Nat → List String → List String → Resolved
  | 0, _, _ => .error loopError
  | links + 1, dir, parts =>
    match parts with
    | [] => .ok (dir, t.node? dir)
    | part :: rest =>
      if part = "" || part = "." then walk t follow (links + 1) dir rest
      else if part = ".." then walk t follow (links + 1) dir.dropLast rest
      else
        let here := dir ++ [part]
        let isLast := rest.all (fun p => p = "" || p = ".")
        match t.node? here with
        | none => if isLast then .ok (here, none) else .error IoError.noSuchFile
        | some .directory => walk t follow (links + 1) here rest
        | some (.file c x) =>
          if isLast then
            if rest.any (· = "") then .error IoError.notADirectory else .ok (here, some (.file c x))
          else .error IoError.notADirectory
        | some (.symlink target) =>
          if isLast && !follow && !rest.any (· = "") then .ok (here, some (.symlink target))
          else
            let start := if target.startsWith "/" then [] else dir
            walk t follow links start (partsOf target ++ rest)
termination_by links _ parts => (links, parts.length)

/-- Resolves a path text from a working directory, following a link at the end when
`follow`. -/
def resolveWith (t : Tree) (follow : Bool) (cwd : List String) (text : String) : Resolved :=
  let start := if text.startsWith "/" then [] else cwd
  if text = "" then .error IoError.noSuchFile
  else walk t follow 41 start (partsOf text)

/-- Resolves a path text from a working directory, following links. -/
def resolve (t : Tree) (cwd : List String) (text : String) : Resolved := t.resolveWith true cwd text

/-- What a path holds, following links; failures and missing places give none. -/
def stat (t : Tree) (cwd : List String) (text : String) : Option Node :=
  match t.resolve cwd text with
  | .ok (_, n) => n
  | .error _ => none

/-- Whether a path names something, following links. -/
def pathExists (t : Tree) (cwd : List String) (text : String) : Bool :=
  (t.stat cwd text).isSome

/-- Whether a path names a directory, following links. -/
def isDirectory (t : Tree) (cwd : List String) (text : String) : Bool :=
  t.stat cwd text == some .directory

/-- The text of a file, following links. -/
def readFile (t : Tree) (cwd : List String) (text : String) : Except IoError String :=
  match t.resolve cwd text with
  | .error e => .error e
  | .ok (_, none) => .error IoError.noSuchFile
  | .ok (_, some .directory) => .error IoError.isADirectory
  | .ok (_, some (.file c _)) => .ok c
  | .ok (_, some (.symlink _)) => .error IoError.noSuchFile

/-- Writes a file, creating or truncating it; a link is written through, creating its
target. -/
def writeFile (t : Tree) (cwd : List String) (text contents : String) : Except IoError Tree :=
  match t.resolve cwd text with
  | .error e => .error e
  | .ok (names, none) =>
    if text.endsWith "/" then .error IoError.isADirectory else .ok (t.set names (.file contents false))
  | .ok (_, some .directory) => .error IoError.isADirectory
  | .ok (names, some (.file _ x)) => .ok (t.set names (.file contents x))
  | .ok (_, some (.symlink _)) => .error IoError.noSuchFile

/-- Creates a directory and its missing parents; an existing directory is kept. A file in
the way is refused: as existing when it is the directory itself, as not a directory when it
stands on the way. -/
def createDirAll (t : Tree) (cwd : List String) (text : String) : Except IoError Tree :=
  let start := if text.startsWith "/" then [] else cwd
  let parts := (partsOf text).filter (· != "")
  let count := parts.length
  let step (acc : Except IoError (Tree × List String)) (item : String × Nat) :
      Except IoError (Tree × List String) :=
    let (part, i) := item
    match acc with
    | .error e => .error e
    | .ok (tree, dir) =>
      if part = "." then .ok (tree, dir)
      else if part = ".." then .ok (tree, dir.dropLast)
      else
        match tree.resolve [] ("/" ++ "/".intercalate (dir ++ [part])) with
        | .ok (names, some .directory) => .ok (tree, names)
        | .ok (names, none) => .ok (tree.set names .directory, names)
        | .ok (_, some _) => .error (if i + 1 = count then existsError else IoError.notADirectory)
        | .error e => .error e
  match (parts.zipIdx).foldl step (.ok (t, start)) with
  | .ok (tree, _) => .ok tree
  | .error e => .error e

/-- Creates a file with its parent directories. -/
def addFile (t : Tree) (names : List String) (contents : String) (executable : Bool) : Tree :=
  let parents := (List.range names.length).map (fun k => names.take k)
  let t := parents.foldl (fun t p => if (t.node? p).isSome then t else t.set p .directory) t
  t.set names (.file contents executable)

/-- Creates a directory with its parents. -/
def addDirectory (t : Tree) (names : List String) : Tree :=
  let prefixes := (List.range (names.length + 1)).map (fun k => names.take k)
  prefixes.foldl (fun t p => if (t.node? p).isSome then t else t.set p .directory) t

/-- Creates a symbolic link with its parent directories. -/
def addSymlink (t : Tree) (names : List String) (target : String) : Tree :=
  let t := t.addDirectory names.dropLast
  t.set names (.symlink target)

/-- Adds, under the directory `root`, directories, files with their texts and links with
their targets, each named by a path relative to `root`. -/
def populate (t : Tree) (root : List String) (dirs : List String) (files : List (String × String))
    (links : List (String × String)) : Tree :=
  let rel (text : String) : List String := root ++ (text.splitOn "/").filter (fun s => s != "" && s != ".")
  let t := t.addDirectory root
  let t := dirs.foldl (fun t d => t.addDirectory (rel d)) t
  let t := files.foldl (fun t (p, c) => t.addFile (rel p) c false) t
  links.foldl (fun t (p, target) => t.addSymlink (rel p) target) t

end Tree

/-- The names of an absolute path text. -/
def namesOf (text : String) : List String :=
  (text.splitOn "/").filter (fun s => s != "" && s != ".")

end SwiftDevEnv.FileSystem
