import Mathlib
import SwiftDevEnv.FileSystem.Walk
import SwiftDevEnv.Proofs.Path.Normalize

/-!
# What a walk of a directory reaches

A tree of a file system holds one node at each path of names, and each name is one a directory
can hold. In such a tree, a walk from a root that names a directory, following a link at the
root, reaches exactly the regular files below the directory that a way down through
directories leads to, no link followed, and whose names from the root down all pass the walk's
filter. The filter is checked for every name on the way, so a directory it refuses hides its
whole subtree; the root's own name is not checked.

The root is resolved twice, once without following a final link (a root that is a file is
reached itself) and once following it. The two resolutions differ only where the first stops
at a link, so a root that names a directory is never taken for a file.
-/

namespace SwiftDevEnv.FileSystem

/-- The tree of a file system: each path of names holds one node, and every name on every path
is one a directory can hold. -/
structure Tree.WellFormed (t : Tree) : Prop where
  keys_nodup : (t.entries.map Prod.fst).Nodup
  isName : ∀ e ∈ t.entries, ∀ n ∈ e.1, Path.IsName n

/-- The tree of a file system, with its well-formedness. -/
structure FileTree where
  tree : Tree
  wellFormed : tree.WellFormed

namespace Tree

/-- The names `rel` lead from the directory `dir` down to a regular file, through directories
only: no link is followed on the way. -/
inductive FileBelow (t : Tree) : List String → List String → Prop
  | file {dir : List String} {name contents : String} {executable : Bool}
      (read : t.node? (dir ++ [name]) = some (.file contents executable)) :
      FileBelow t dir [name]
  | directory {dir rel : List String} {name : String}
      (read : t.node? (dir ++ [name]) = some .directory) (below : FileBelow t (dir ++ [name]) rel) :
      FileBelow t dir (name :: rel)

variable {t : Tree}

/-- In a tree whose paths are distinct, a path holds a node exactly when the tree lists it. -/
theorem node?_eq_some_iff (h : (t.entries.map Prod.fst).Nodup) {names : List String}
    {n : Node} : t.node? names = some n ↔ (names, n) ∈ t.entries := by
  constructor
  · intro hn
    obtain ⟨e, he, rfl⟩ := Option.map_eq_some_iff.mp hn
    have hkey : e.1 = names := by simpa using List.find?_some he
    rw [← hkey]
    exact List.mem_of_find?_eq_some he
  · intro hmem
    obtain ⟨e, he⟩ : ∃ e, t.entries.find? (·.1 == names) = some e :=
      Option.isSome_iff_exists.mp (List.find?_isSome.mpr ⟨(names, n), hmem, by simp⟩)
    have heq : e = (names, n) :=
      List.inj_on_of_nodup_map h (List.mem_of_find?_eq_some he) hmem
        (by simpa using List.find?_some he)
    simp [node?, he, heq]

/-- A file the tree holds has proper names all the way down. -/
theorem WellFormed.isName_of_node? (ht : t.WellFormed) {names : List String} {n : Node}
    (h : t.node? names = some n) : ∀ x ∈ names, Path.IsName x :=
  ht.isName (names, n) ((node?_eq_some_iff ht.keys_nodup).mp h)

/-- The places strictly between a directory and an entry below it: the first name, when more
follow, and then those between that name and the entry. -/
theorem directoriesBetween_cons (dir rest : List String) (name : String) :
    t.directoriesBetween dir (name :: rest) =
      ((rest.isEmpty || t.node? (dir ++ [name]) == some .directory) &&
        t.directoriesBetween (dir ++ [name]) rest) := by
  cases rest with
  | nil => simp [directoriesBetween]
  | cons r rs => simp [directoriesBetween, List.range_succ_eq_map, Function.comp_def]

/-- A way down to a file is a non-empty path of names that ends at a regular file and passes
only directories before it. -/
theorem fileBelow_iff {dir rel : List String} :
    t.FileBelow dir rel ↔
      rel ≠ [] ∧ (∃ c x, t.node? (dir ++ rel) = some (.file c x)) ∧
        t.directoriesBetween dir rel = true := by
  induction rel generalizing dir with
  | nil =>
    refine ⟨fun h => ?_, fun h => absurd rfl h.1⟩
    cases h
  | cons name rest ih =>
    rw [directoriesBetween_cons]
    constructor
    · rintro (⟨read⟩ | ⟨read, below⟩)
      · exact ⟨List.cons_ne_nil _ _, ⟨_, _, read⟩, by simp [directoriesBetween]⟩
      · obtain ⟨hne, ⟨c, x, hfile⟩, hbetween⟩ := ih.mp below
        exact ⟨List.cons_ne_nil _ _, ⟨c, x, by simpa using hfile⟩, by simp [read, hbetween]⟩
    · rintro ⟨-, ⟨c, x, hfile⟩, hbetween⟩
      cases rest with
      | nil => exact .file hfile
      | cons r rs =>
        simp only [List.isEmpty_cons, Bool.false_or, Bool.and_eq_true, beq_iff_eq] at hbetween
        exact .directory hbetween.1
          (ih.mpr ⟨List.cons_ne_nil _ _, ⟨c, x, by simpa using hfile⟩, hbetween.2⟩)

/-- Not following a link at the end changes the outcome only where the path names a link. -/
theorem walk_false_eq_or_symlink (links : Nat) (dir parts : List String) :
    t.walk false links dir parts = t.walk true links dir parts ∨
      ∃ place target, t.walk false links dir parts = .ok (place, some (.symlink target)) := by
  fun_induction t.walk false links dir parts with
  | case11 links dir part rest _ _ here _ target _ _ =>
    exact .inr ⟨here, target, rfl⟩
  | case3 links dir part rest _ ih | case4 links dir rest _ ih | case7 links dir part rest _ _ _ _ ih
  | case12 links dir part rest _ _ _ _ _ _ _ _ ih =>
    refine ih.imp_left fun h => ?_
    rw [h]
    conv_rhs => rw [walk]
    simp_all +zetaDelta
  | case1 | case2 => exact .inl (by rw [walk])
  | _ =>
    left
    conv_rhs => rw [walk]
    simp_all +zetaDelta

/-- A path that names a directory, following links, is no file when a final link is not
followed. -/
theorem resolveWith_false_ne_file {cwd place : List String} {text : String}
    (h : t.resolve cwd text = .ok (place, some .directory)) (names : List String) (c : String)
    (x : Bool) : t.resolveWith false cwd text ≠ .ok (names, some (.file c x)) := by
  simp only [resolve, resolveWith] at h ⊢
  by_cases hempty : text = ""
  · simp [hempty]
  · rw [if_neg hempty] at h ⊢
    generalize (if text.startsWith "/" = true then [] else cwd) = start at h ⊢
    rcases walk_false_eq_or_symlink 41 start (partsOf text) with heq | ⟨_, _, hlink⟩
    · rw [heq, h]
      simp
    · rw [hlink]
      simp

/-- A walk from a root that names a directory reaches exactly the files a way down through
directories leads to, all of whose names pass the filter. The root is no file, so the walk lists the
files below the directory it names. -/
theorem mem_walkFiles_iff (fs : FileTree) {root : String} {dir : List String}
    (h : fs.tree.resolve [] root = .ok (dir, some .directory)) (keep : String → Bool)
    (rel : List String) :
    rel ∈ fs.tree.walkFiles root keep ↔ fs.tree.FileBelow dir rel ∧ ∀ n ∈ rel, keep n = true := by
  rw [fileBelow_iff]
  unfold walkFiles
  split
  · exact absurd ‹_› (resolveWith_false_ne_file h _ _ _)
  rw [h]
  simp only [List.mem_filterMap]
  constructor
  · rintro ⟨⟨p, n⟩, hmem, hrel⟩
    cases n with
    | file c x =>
      simp only [Bool.and_eq_true, decide_eq_true_eq, beq_iff_eq, List.all_eq_true] at hrel
      split_ifs at hrel with hbelow hpass
      cases hrel
      have hp : dir ++ p.drop dir.length = p := by
        conv_rhs => rw [← List.take_append_drop dir.length p]
        rw [hbelow.2]
      refine ⟨⟨?_, ⟨c, x, ?_⟩, hpass.2⟩, hpass.1⟩
      · simpa [List.drop_eq_nil_iff] using hbelow.1
      · rw [hp]
        exact (node?_eq_some_iff fs.wellFormed.keys_nodup).mpr hmem
    | directory => cases hrel
    | symlink _ => cases hrel
  · rintro ⟨⟨hne, ⟨c, x, hfile⟩, hbetween⟩, hpass⟩
    refine ⟨(dir ++ rel, .file c x), (node?_eq_some_iff fs.wellFormed.keys_nodup).mp hfile, ?_⟩
    have hlen : dir.length < dir.length + rel.length := by
      simpa using List.length_pos_of_ne_nil hne
    simp [hlen, hbetween, List.all_eq_true.mpr hpass]

end Tree

end SwiftDevEnv.FileSystem
