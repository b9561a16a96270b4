import SwiftDevEnv.Path.Order
import SwiftDevEnv.Json.Value

/-!
# Build targets

A target is a named group of source files compiled together: a name, the directory it lives
in, its source files and the compiler arguments it needs. The sources form a set in path
order: a list that every operation keeps strictly ascending, so that it holds no two paths
naming the same place. Inserting a path equal to one already present keeps the one that was
there, while a set built at once from a list keeps the last of equal paths.

Flattening a list of target groups gives every target its sources minus those already claimed
by a target of an earlier group, so that a file belongs to the first group that names it.
-/

namespace SwiftDevEnv

/-- A list of paths in strictly ascending path order: sorted, with no two naming the same
place. -/
def Path.Ascending (ps : List Path) : Prop :=
  ps.Pairwise fun p q => p.compare q = .lt

namespace Path.Ascending

/-- A strictly ascending list of paths holds no path twice. -/
theorem nodup {l : List Path} (h : Path.Ascending l) : l.Nodup :=
  h.imp fun {p _} hlt => by
    rintro rfl
    exact p.compare_self_ne_lt hlt

/-- A path below the first of an ascending list is below every path of it. -/
theorem lt_of_lt_head {p q : Path} {rest : List Path} (h : Path.Ascending (q :: rest))
    (hpq : p.compare q = .lt) : ∀ r ∈ q :: rest, p.compare r = .lt := by
  intro r hr
  rcases List.mem_cons.mp hr with rfl | hr
  · exact hpq
  · exact Std.TransCmp.lt_trans hpq (List.rel_of_pairwise_cons h hr)

/-- The first path of an ascending list stays first when its rest gives way to an ascending
list of the rest's paths and a path above the first. -/
theorem cons_of_gt {p q : Path} {rest l : List Path} (h : Path.Ascending (q :: rest))
    (hpq : p.compare q = .gt) (hl : Path.Ascending l) (hmem : ∀ r ∈ l, r = p ∨ r ∈ rest) :
    Path.Ascending (q :: l) := by
  refine List.Pairwise.cons (fun r hr => ?_) hl
  rcases hmem r hr with rfl | hr
  · exact Std.OrientedCmp.gt_iff_lt.mp hpq
  · exact List.rel_of_pairwise_cons h hr

end Path.Ascending

namespace SourceSet

/-- Inserts a path into a sorted list, keeping an equal path already present. -/
def insertSorted (p : Path) : List Path → List Path
  | [] => [p]
  | q :: rest =>
    match p.compare q with
    | .lt => p :: q :: rest
    | .eq => q :: rest
    | .gt => q :: insertSorted p rest

/-- Inserts a path into a sorted list, replacing an equal path already present. -/
def replaceSorted (p : Path) : List Path → List Path
  | [] => [p]
  | q :: rest =>
    match p.compare q with
    | .lt => p :: q :: rest
    | .eq => p :: rest
    | .gt => q :: replaceSorted p rest

/-- Sorted insertion holds the new path and what the list held. -/
theorem mem_insertSorted {p r : Path} {l : List Path} (h : r ∈ insertSorted p l) : r = p ∨ r ∈ l := by
  induction l with
  | nil => simpa [insertSorted] using h
  | cons q rest ih =>
    unfold insertSorted at h
    split at h
    · simpa using h
    · exact .inr h
    · rcases List.mem_cons.mp h with rfl | h
      · exact .inr List.mem_cons_self
      · exact (ih h).imp_right (List.mem_cons_of_mem q)

/-- Sorted replacement holds the new path and what the list held. -/
theorem mem_replaceSorted {p r : Path} {l : List Path} (h : r ∈ replaceSorted p l) :
    r = p ∨ r ∈ l := by
  induction l with
  | nil => simpa [replaceSorted] using h
  | cons q rest ih =>
    unfold replaceSorted at h
    split at h
    · simpa using h
    · rcases List.mem_cons.mp h with rfl | h
      · exact .inl rfl
      · exact .inr (List.mem_cons_of_mem q h)
    · rcases List.mem_cons.mp h with rfl | h
      · exact .inr List.mem_cons_self
      · exact (ih h).imp_right (List.mem_cons_of_mem q)

/-- Sorted insertion keeps a list ascending: the new path goes before the first path above it,
and not at all when an equal path is met. -/
theorem ascending_insertSorted (p : Path) {l : List Path} (h : Path.Ascending l) :
    Path.Ascending (insertSorted p l) := by
  induction l with
  | nil => exact List.pairwise_singleton _ p
  | cons q rest ih =>
    unfold insertSorted
    cases hpq : p.compare q with
    | lt => exact List.Pairwise.cons (h.lt_of_lt_head hpq) h
    | eq => exact h
    | gt => exact h.cons_of_gt hpq (ih (List.Pairwise.of_cons h)) fun _ => mem_insertSorted

/-- Sorted replacement keeps a list ascending: an equal path met is replaced in its place. -/
theorem ascending_replaceSorted (p : Path) {l : List Path} (h : Path.Ascending l) :
    Path.Ascending (replaceSorted p l) := by
  induction l with
  | nil => exact List.pairwise_singleton _ p
  | cons q rest ih =>
    obtain ⟨hq, hrest⟩ := List.pairwise_cons.mp h
    unfold replaceSorted
    cases hpq : p.compare q with
    | lt => exact List.Pairwise.cons (h.lt_of_lt_head hpq) h
    | eq => exact List.Pairwise.cons (fun r hr => Path.compare_lt_of_eq_of_lt hpq (hq r hr)) hrest
    | gt => exact h.cons_of_gt hpq (ih hrest) fun _ => mem_replaceSorted

end SourceSet

/-- A set of paths: a list in strictly ascending path order, so sorted and with no two paths
naming the same place. -/
structure SourceSet where
  toList : List Path
  ascending : Path.Ascending toList
  deriving DecidableEq

namespace SourceSet

instance : Repr SourceSet := ⟨fun s n => reprPrec s.toList n⟩

/-- Sets with the same paths are equal. -/
@[ext] theorem ext {s t : SourceSet} (h : s.toList = t.toList) : s = t := by
  cases s
  cases t
  cases h
  rfl

/-- The paths of a set are listed in the one ascending order of them: any strictly ascending
list of the same paths is that list. -/
theorem toList_eq_of_ascending (s : SourceSet) {l : List Path} (hl : Path.Ascending l)
    (hmem : ∀ p, p ∈ l ↔ p ∈ s.toList) : l = s.toList := by
  have hperm : l.Perm s.toList := (List.perm_ext_iff_of_nodup hl.nodup s.ascending.nodup).mpr hmem
  refine hperm.eq_of_pairwise (fun p q _ _ hpq hqp => absurd hpq ?_) hl s.ascending
  rw [@Std.OrientedCmp.eq_swap _ Path.compare _ p q, hqp]
  decide

/-- The empty set. -/
def empty : SourceSet := ⟨[], List.Pairwise.nil⟩

instance : Inhabited SourceSet := ⟨empty⟩

/-- Inserts a path unless an equal one is present. -/
def insert (s : SourceSet) (p : Path) : SourceSet :=
  ⟨insertSorted p s.toList, ascending_insertSorted p s.ascending⟩

/-- Inserts a path, replacing an equal one. -/
def replace (s : SourceSet) (p : Path) : SourceSet :=
  ⟨replaceSorted p s.toList, ascending_replaceSorted p s.ascending⟩

/-- The set of the given paths; of equal paths the last is kept, as when a set is built
from a sorted sequence by dropping all but the last of each run of equal paths. -/
def ofList (ps : List Path) : SourceSet := ps.foldl replace empty

/-- Whether the set holds a path equal to `p`. -/
def contains (s : SourceSet) (p : Path) : Bool := s.toList.any (·.same p)

/-- The paths of the set that pass a test, in their order. -/
def filter (s : SourceSet) (f : Path → Bool) : SourceSet :=
  ⟨s.toList.filter f, s.ascending.filter f⟩

/-- Removes the path equal to `p`, if any. -/
def erase (s : SourceSet) (p : Path) : SourceSet := s.filter (!·.same p)

/-- The number of paths. -/
def size (s : SourceSet) : Nat := s.toList.length

/-- Whether the set has no paths. -/
def isEmpty (s : SourceSet) : Bool := s.toList.isEmpty

/-- The paths of `s` that are not in `t`. -/
def diff (s t : SourceSet) : SourceSet := s.filter (!t.contains ·)

/-- The union of two sets; a path of `s` wins over an equal one of `t`. -/
def union (s t : SourceSet) : SourceSet := t.toList.foldl insert s

end SourceSet

/-- A group of sources compiled together. -/
structure Target where
  name : String
  path : Path
  sources : SourceSet
  compilerArguments : List String
  deriving DecidableEq, Repr, Inhabited

namespace Target

/-- The target of a lone file: named after the file, holding just it. -/
def singleFile (p : Path) : Target :=
  ⟨p.fileName.getD "", p, SourceSet.empty.insert p, []⟩

/-- Whether the target has a source equal to `p`. -/
def contains (t : Target) (p : Path) : Bool := t.sources.contains p

/-- The JSON form of a target: name, path, sources in order, compiler arguments. -/
def toJson (t : Target) : Json.Value :=
  .ofMembers [("name", .string t.name), ("path", .string t.path.text),
    ("sources", .array (t.sources.toList.map (fun p => .string p.text))),
    ("compiler_arguments", .ofStrings t.compilerArguments)]

end Target

/-- Flattens one more group: its targets lose the sources already claimed and are appended;
what they keep is claimed only once the whole group is done, so targets of one group are not
compared with each other. -/
def flattenStep (acc : List Target × SourceSet) (group : List Target) : List Target × SourceSet :=
  let (done, claimed) := acc
  let kept := group.map fun t => { t with sources := t.sources.diff claimed }
  let claimed := kept.foldl (fun c t => c.union t.sources) claimed
  (done ++ kept, claimed)

/-- Gives each target the sources that no target of an earlier group claimed. -/
def flattenUnique (groups : List (List Target)) : List Target :=
  (groups.foldl flattenStep ([], SourceSet.empty)).1

end SwiftDevEnv
