import SwiftDevEnv.Target.Basic

/-!
# The target index

The index holds the workspace's targets in order and answers which target a source file
belongs to: the first target that has it, or else a target of the lone file. A new file joins
the target whose directory holds it most closely (the one with most path components; the last
such in index order when several tie), and a deleted file leaves every target that had it.
-/

namespace SwiftDevEnv

/-- The known targets of a workspace, in order. -/
structure TargetIndex where
  targets : List Target
  deriving DecidableEq, Repr, Inhabited

namespace TargetIndex

/-- The first target that has the source. -/
def find? (ix : TargetIndex) (p : Path) : Option Target :=
  ix.targets.find? (·.contains p)

/-- The target whose arguments apply to a source: its owner, or the source alone. -/
def targetFor (ix : TargetIndex) (p : Path) : Target :=
  (ix.find? p).getD (Target.singleFile p)

/-- The better of the best candidate so far, as its position and depth, and the next candidate:
the later one unless it has fewer components. -/
def closerOwner (best : Option (Nat × Nat)) : Target × Nat → Option (Nat × Nat)
  | (t, i) =>
    match best with
    | none => some (i, t.path.depth)
    | some (j, d) => if t.path.depth ≥ d then some (i, t.path.depth) else some (j, d)

/-- The targets whose directory is a component prefix of the file, with their positions. -/
def enclosing (ix : TargetIndex) (p : Path) : List (Target × Nat) :=
  (ix.targets.zipIdx).filter (fun (t, _) => p.startsWith t.path)

/-- The position of the target that a new file joins: among the targets whose directory is a
component prefix of the file, one with most components, the last of those. -/
def closestOwner (ix : TargetIndex) (p : Path) : Option Nat :=
  ((ix.enclosing p).foldl closerOwner none).map (·.1)

/-- Registers a new file: the name of the target that owns it afterwards, if any. -/
def sourceCreated (ix : TargetIndex) (p : Path) : TargetIndex × Option String :=
  match ix.find? p with
  | some owner => (ix, some owner.name)
  | none =>
    match ix.closestOwner p with
    | none => (ix, none)
    | some i =>
      let targets := ix.targets.modify i (fun t => { t with sources := t.sources.insert p })
      (⟨targets⟩, (targets[i]?).map (·.name))

/-- Forgets a deleted file; whether any target had it. -/
def sourceDeleted (ix : TargetIndex) (p : Path) : TargetIndex × Bool :=
  (⟨ix.targets.map fun t => { t with sources := t.sources.erase p }⟩, ix.targets.any (·.contains p))

end TargetIndex

end SwiftDevEnv
