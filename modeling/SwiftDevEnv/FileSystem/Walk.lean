import SwiftDevEnv.FileSystem.Tree

/-!
# Walking a directory

A walk from a root lists the files it reaches. A root that is a file is reached itself. A root
that is a directory, or a link to one, is walked: every file below it whose way down passes
only through directories, without following links, and whose names from the root down all
pass the walk's filter. A link below the root is neither a file nor a directory to the walk,
so neither it nor what it points to is reached.
-/

namespace SwiftDevEnv.FileSystem

namespace Tree

/-- Whether every place strictly between a directory and an entry below it is a directory. -/
def directoriesBetween (t : Tree) (dir : List String) (rel : List String) : Bool :=
  (List.range (rel.length - 1)).all fun k => t.node? (dir ++ rel.take (k + 1)) == some .directory

/-- The files a walk from the path `root` reaches, by their names relative to the root: the
root itself as `[]` when it is a file, else the files below it whose names all pass `keep`. -/
def walkFiles (t : Tree) (root : String) (keep : String → Bool) : List (List String) :=
  match t.resolveWith false [] root with
  | .ok (_, some (.file _ _)) => [[]]
  | _ =>
    match t.resolve [] root with
    | .ok (dir, some .directory) =>
      t.entries.filterMap fun (p, n) =>
        match n with
        | .file _ _ =>
          if p.length > dir.length && p.take dir.length == dir then
            let rel := p.drop dir.length
            if rel.all keep && t.directoriesBetween dir rel then some rel else none
          else none
        | _ => none
    | _ => []

end Tree

end SwiftDevEnv.FileSystem
