/-!
# File-system paths

A path is a text in which `/` separates components. Its components are an optional root, a
leading `.` when the text starts with `./` or is `.`, and then every non-empty part other than
`.`, with `..` kept as a step to the parent. Two paths are equal when their components are,
so repeated and trailing slashes and inner `.` parts do not matter; paths are ordered by
comparing components in turn, a root before `.`, `.` before `..` and `..` before names, names
by their bytes. So `/ws/a/b` comes before `/ws/a-b`.

Normalising a path against a base joins it to the base unless it is absolute, then drops `.`
and resolves `..` by removing the last name, if any.
-/

namespace SwiftDevEnv

/-- A file-system path, as written. -/
structure Path where
  text : String
  deriving DecidableEq, Repr, Inhabited

/-- One component of a path. -/
inductive Component where
  | root
  | current
  | parent
  | normal (name : String)
  deriving DecidableEq, Repr

namespace Component

/-- The rank of a component's kind in the component order. -/
def rank : Component → Nat
  | .root => 0
  | .current => 1
  | .parent => 2
  | .normal _ => 3

/-- The order of components: by kind, then names by their bytes. -/
def compare (a b : Component) : Ordering :=
  match a, b with
  | .normal x, .normal y => Ord.compare x y
  | _, _ => Ord.compare a.rank b.rank

/-- The component a part between slashes stands for: none for an empty part or `.`. -/
def ofPart (s : String) : Option Component :=
  if s = "" || s = "." then none else if s = ".." then some .parent else some (.normal s)

/-- The text of a component. -/
def text : Component → String
  | .root => "/"
  | .current => "."
  | .parent => ".."
  | .normal n => n

end Component

namespace Path

/-- The parts between slashes. -/
def parts (p : Path) : List String :=
  (p.text.toList.splitOn '/').map String.ofList

/-- Whether the path starts at the root. -/
def isAbsolute (p : Path) : Bool :=
  p.text.startsWith "/"

/-- The components of a path. -/
def components (p : Path) : List Component :=
  let rest := p.parts.filterMap Component.ofPart
  if p.isAbsolute then .root :: rest
  else if p.text = "." || p.text.startsWith "./" then .current :: rest
  else rest

/-- Compares component lists in turn; a proper prefix comes first. -/
def compareComponents : List Component → List Component → Ordering
  | [], [] => .eq
  | [], _ :: _ => .lt
  | _ :: _, [] => .gt
  | a :: as, b :: bs =>
    match a.compare b with
    | .eq => compareComponents as bs
    | o => o

/-- The order of paths: component by component. -/
def compare (p q : Path) : Ordering :=
  compareComponents p.components q.components

/-- Two paths name the same place when their components are equal. -/
def same (p q : Path) : Bool :=
  p.compare q == .eq

/-- Appends a relative path after a separator; an absolute one replaces the base. -/
def join (base p : Path) : Path :=
  if p.isAbsolute then p
  else if base.text = "" then p
  else if base.text.endsWith "/" then ⟨base.text ++ p.text⟩
  else ⟨base.text ++ "/" ++ p.text⟩

/-- Joins a name or relative text. -/
def push (base : Path) (name : String) : Path :=
  base.join ⟨name⟩

/-- The last component when it is a name. -/
def fileName (p : Path) : Option String :=
  match p.components.getLast? with
  | some (.normal n) => some n
  | _ => none

/-- The part of a file name after its last dot, unless the only dot starts the name. -/
def nameExtension (name : String) : Option String :=
  let pieces := (name.toList.splitOn '.').map String.ofList
  match pieces with
  | [] | [_] => none
  | first :: _ => if first = "" && pieces.length = 2 then none else pieces.getLast?

/-- The extension of the file name, when the last component is a name. -/
def extension (p : Path) : Option String := p.fileName.bind nameExtension

/-- The path built from components. -/
def ofComponents (cs : List Component) : Path :=
  match cs with
  | .root :: rest => ⟨"/" ++ "/".intercalate (rest.map Component.text)⟩
  | _ => ⟨"/".intercalate (cs.map Component.text)⟩

/-- Whether the components of `base` are a prefix of those of `p`. -/
def startsWith (p base : Path) : Bool :=
  let rec go : List Component → List Component → Bool
    | _, [] => true
    | [], _ :: _ => false
    | a :: as, b :: bs => a == b && go as bs
  go p.components base.components

/-- The path below `base`, when `base` is a component prefix of `p`. -/
def stripPrefix (p base : Path) : Option Path :=
  let rec go : List Component → List Component → Option (List Component)
    | rest, [] => some rest
    | [], _ :: _ => none
    | a :: as, b :: bs => if a == b then go as bs else none
  (go p.components base.components).map ofComponents

/-- The number of components. -/
def depth (p : Path) : Nat := p.components.length

/-- One component of normalisation, over the names kept so far, last first: a name is kept,
`..` removes the last name if there is one, and the root and `.` change nothing. -/
def resolveStep (acc : List String) : Component → List String
  | .normal n => n :: acc
  | .parent => acc.drop 1
  | _ => acc

/-- The names kept by normalisation: `.` dropped and `..` removing the last name. -/
def resolveNames (cs : List Component) : List String :=
  (cs.foldl resolveStep []).reverse

/-- `path` joined to `base` unless absolute, with `.` dropped and `..` resolved by name. -/
def normalize (base path : Path) : Path :=
  let joined := if path.isAbsolute then path else base.join path
  let names := resolveNames joined.components
  if joined.isAbsolute then ⟨"/" ++ "/".intercalate names⟩ else ⟨"/".intercalate names⟩

/-- The path without its last component, if it has one to drop. -/
def parent? (p : Path) : Option Path :=
  match p.components.reverse with
  | [] => none
  | .root :: _ => none
  | _ :: rest => some (ofComponents rest.reverse)

end Path

end SwiftDevEnv
