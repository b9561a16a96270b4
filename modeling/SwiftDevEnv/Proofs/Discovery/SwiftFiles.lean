import Mathlib
import SwiftDevEnv.Proofs.Discovery.Sources
import SwiftDevEnv.Proofs.FileSystem.Walk

/-!
# The target of every Swift file of a workspace

When a workspace has no other source of targets, it gets one target named after it, whose
sources are found by walking it. In the tree of a file system, and for a workspace that names a
directory, the walk's sources are exactly the normalised paths of the regular files below the
workspace that a way down through directories leads to, whose every name below the workspace
neither starts with a dot nor is `Carthage`, and whose name is a stem and `.swift`. So a hidden
or `Carthage` directory hides its whole subtree at any depth, a hidden file is never a source,
and the workspace's own name may be hidden.

Three facts carry this. A path pushed name by name ends in the last name, so the extension
checked is that of the file's own name; a name's extension is what follows its last dot, when
something stands before that dot. And normalised paths that name the same place are the same
text, so building the set of sources loses none of them.
-/

namespace SwiftDevEnv

/-- Parts joined by a separator, with one more part after them. -/
theorem intercalate_concat {α : Type} (sep : List α) {init : List (List α)} (h : init ≠ [])
    (last : List α) : sep.intercalate (init ++ [last]) = sep.intercalate init ++ sep ++ last := by
  induction init with
  | nil => exact absurd rfl h
  | cons l init ih =>
    cases init with
    | nil => simp
    | cons l' init =>
      have ih' := ih (List.cons_ne_nil l' init)
      rw [List.cons_append] at ih'
      simp [ih', List.append_assoc]

namespace Path

/-- Splitting a stem, a dot and a dot-free extension at the dots gives the stem's parts, then
the extension. -/
theorem splitOn_stem_dot {stem ext : String} (hext : '.' ∉ ext.toList) :
    (stem ++ "." ++ ext).toList.splitOn '.' = stem.toList.splitOn '.' ++ [ext.toList] := by
  simp [List.splitOn_append_cons_self, List.splitOn_eq_singleton hext]

/-- A non-empty stem, a dot and a dot-free extension has that extension. -/
theorem nameExtension_stem_dot {stem ext : String} (hstem : stem ≠ "")
    (hext : '.' ∉ ext.toList) : nameExtension (stem ++ "." ++ ext) = some ext := by
  obtain ⟨q, qs, hq⟩ := List.exists_cons_of_ne_nil (List.splitOn_ne_nil '.' stem.toList)
  have hfirst : qs = [] → String.ofList q ≠ "" := by
    rintro rfl hq'
    have hjoin : ['.'].intercalate (stem.toList.splitOn '.') = stem.toList :=
      List.intercalate_splitOn '.'
    have hstem' : stem.toList = q := by simpa [hq] using hjoin.symm
    exact hstem (by rw [← String.toList_inj, hstem', ← hq', String.toList_ofList])
  simp only [nameExtension, splitOn_stem_dot hext, hq, List.cons_append, List.map_cons,
    List.map_append]
  cases qs with
  | nil => simp [hfirst rfl]
  | cons q' qs => simp [List.getLast?_cons]

/-- A name with an extension is a non-empty stem, a dot and the extension. The last part after a dot
is the extension, and the parts before it, joined back with dots, are the stem. -/
theorem exists_stem_of_nameExtension {name ext : String} (h : nameExtension name = some ext) :
    ∃ stem, stem ≠ "" ∧ name = stem ++ "." ++ ext := by
  obtain ⟨p0, ps, hP⟩ := List.exists_cons_of_ne_nil (List.splitOn_ne_nil '.' name.toList)
  cases ps with
  | nil => simp [nameExtension, hP] at h
  | cons p1 ps =>
    simp [nameExtension, hP] at h
    obtain ⟨hfirst, hlast⟩ := h
    have hne : p1 :: ps ≠ [] := List.cons_ne_nil _ _
    have hext : String.ofList ((p1 :: ps).getLast hne) = ext := by
      rw [← List.map_cons, List.getLast?_map, List.getLast?_eq_some_getLast hne] at hlast
      simpa using hlast
    have hname : name.toList =
        ['.'].intercalate (p0 :: (p1 :: ps).dropLast) ++ ['.'] ++ (p1 :: ps).getLast hne := by
      rw [← intercalate_concat _ (List.cons_ne_nil _ _), List.cons_append,
        List.dropLast_append_getLast, ← hP, List.intercalate_splitOn]
    refine ⟨String.ofList (['.'].intercalate (p0 :: (p1 :: ps).dropLast)), ?_, ?_⟩
    · -- empty only if the first part is and no part stands between it and the last
      cases ps with
      | nil => simpa using hfirst
      | cons p2 ps => simp [List.intercalate_cons_of_ne_nil]
    · rw [← hext, ← String.toList_inj]
      simp [hname]

/-- A name has the extension `ext`, free of dots, exactly when it is a non-empty stem, a dot and
`ext`: the extension is what follows the last dot, and a dot that starts the name does not
count. -/
theorem nameExtension_eq_some_iff {name ext : String} (hext : '.' ∉ ext.toList) :
    nameExtension name = some ext ↔ ∃ stem, stem ≠ "" ∧ name = stem ++ "." ++ ext := by
  refine ⟨exists_stem_of_nameExtension, ?_⟩
  rintro ⟨stem, hstem, rfl⟩
  exact nameExtension_stem_dot hstem hext

/-- A visible name is a Swift file's exactly when it ends in `.swift`. An empty stem would leave the
name `.swift`, which is hidden. -/
theorem nameExtension_eq_swift_iff {name : String} (hvisible : ¬name.startsWith ".") :
    nameExtension name = some "swift" ↔ ∃ stem, name = stem ++ ".swift" := by
  rw [nameExtension_eq_some_iff (by decide)]
  constructor
  · rintro ⟨stem, -, rfl⟩
    exact ⟨stem, by rw [String.append_assoc]; rfl⟩
  · rintro ⟨stem, rfl⟩
    refine ⟨stem, fun hempty => hvisible ?_, by rw [String.append_assoc]; rfl⟩
    rw [hempty]
    decide +kernel

/-- A relative name has itself as its only step. -/
theorem steps_name {name : String} (h : IsName name) : (⟨name⟩ : Path).steps = [.normal name] := by
  simpa using steps_intercalate (show ∀ n ∈ [name], IsName n by simpa using h)

/-- A path with a name pushed onto it ends in that name. -/
theorem fileName_push (base : Path) {name : String} (h : IsName name) :
    (base.push name).fileName = some name := by
  have hrel : (⟨name⟩ : Path).isAbsolute = false := by
    rw [Bool.eq_false_iff, ne_eq, isAbsolute_iff]
    rintro ⟨r, hr⟩
    exact h.2.2.2 (by simp [hr])
  have hlast : (base.push name).components.getLast? = some (.normal name) := by
    rw [components_eq, push, steps_join base hrel, steps_name h, ← List.append_assoc,
      List.getLast?_concat]
  simp [fileName, hlast]

/-- A path pushed name by name has the extension of its last name. -/
theorem extension_foldl_push (base : Path) (dirs : List String) {name : String} (h : IsName name) :
    ((dirs ++ [name]).foldl push base).extension = nameExtension name := by
  rw [List.foldl_append, List.foldl_cons, List.foldl_nil, extension, fileName_push _ h,
    Option.bind_some]

/-- Normalised paths that name the same place are the same path. -/
theorem normalize_eq_of_same {b p b' q : Path} (h : (normalize b p).same (normalize b' q) = true) :
    normalize b p = normalize b' q := by
  have hnormal : Function.Injective (List.map Component.normal) :=
    List.map_injective_iff.mpr fun _ _ hn => Component.normal.inj hn
  rw [same_iff, components_normalize, components_normalize, ← isAbsolute_join,
    ← isAbsolute_join] at h
  rw [normalize_eq, normalize_eq]
  split_ifs at h with hp hq hq
  · rw [hp, hq, hnormal (List.append_cancel_left h)]
  · obtain ⟨n, ns, hns⟩ := List.exists_cons_of_ne_nil
      (fun hnil => by simp [hnil] at h : ((b'.join q).steps.foldl resolveStep []).reverse ≠ [])
    simp [hns] at h
  · obtain ⟨n, ns, hns⟩ := List.exists_cons_of_ne_nil
      (fun hnil => by simp [hnil] at h : ((b.join p).steps.foldl resolveStep []).reverse ≠ [])
    simp [hns] at h
  · simp only [Bool.not_eq_true] at hp hq
    rw [hp, hq, hnormal (List.append_cancel_left h)]

end Path

namespace SourceSet

/-- A path stays in a sorted list when another is put in its place, unless it names the same
place as the one put in. -/
theorem mem_replaceSorted_of_mem (p : Path) {x : Path} {l : List Path} (h : x ∈ l) :
    x ∈ replaceSorted p l ∨ p.same x = true := by
  induction l with
  | nil => cases h
  | cons q rest ih =>
    unfold replaceSorted
    rcases List.mem_cons.mp h with rfl | h
    · split
      · exact .inl (by simp)
      · exact .inr (by simpa [Path.same])
      · exact .inl (by simp)
    · split
      · exact .inl (by simp [h])
      · exact .inl (by simp [h])
      · exact (ih h).imp_left (List.mem_cons_of_mem q)

/-- The path put into a sorted list is in it. -/
theorem self_mem_replaceSorted (p : Path) (l : List Path) : p ∈ replaceSorted p l := by
  induction l with
  | nil => simp [replaceSorted]
  | cons q rest ih =>
    unfold replaceSorted
    split <;> simp [ih]

/-- A set built from paths of which no two distinct ones name the same place holds exactly those
paths. Each path put in stays, since a later one that replaces it is the same path. -/
theorem mem_ofList_iff {ps : List Path} (h : ∀ a ∈ ps, ∀ b ∈ ps, a.same b = true → a = b)
    {x : Path} : x ∈ (ofList ps).toList ↔ x ∈ ps := by
  refine ⟨mem_of_mem_ofList, fun hx => ?_⟩
  suffices ∀ (s : SourceSet), (∀ a ∈ s.toList ++ ps, ∀ b ∈ s.toList ++ ps, a.same b = true → a = b) →
      x ∈ s.toList ++ ps → x ∈ (ps.foldl replace s).toList by
    exact this empty (by simpa [empty] using h) (by simpa [empty] using hx)
  clear h hx
  induction ps with
  | nil => simp
  | cons p ps ih =>
    intro s hsame hx
    have hsub : ∀ a ∈ (s.replace p).toList ++ ps, a ∈ s.toList ++ p :: ps := by
      intro a ha
      rcases List.mem_append.mp ha with ha | ha
      · rcases mem_replaceSorted ha with rfl | ha
        · simp
        · simp [ha]
      · simp [ha]
    refine ih (s.replace p) (fun a ha b hb => hsame a (hsub a ha) b (hsub b hb)) ?_
    rcases List.mem_append.mp hx with hx | hx
    · rcases mem_replaceSorted_of_mem p hx with hx | hpx
      · exact List.mem_append_left _ hx
      · rw [← hsame p (by simp) x (by simp [hx]) hpx]
        exact List.mem_append_left _ (self_mem_replaceSorted p s.toList)
    · rcases List.mem_cons.mp hx with rfl | hx
      · exact List.mem_append_left _ (self_mem_replaceSorted x s.toList)
      · exact List.mem_append_right _ hx

/-- A set built from paths normalised against one base holds exactly those paths. -/
theorem mem_ofList_map_normalize (b : Path) (ps : List Path) {x : Path} :
    x ∈ (ofList (ps.map b.normalize)).toList ↔ x ∈ ps.map b.normalize := by
  refine mem_ofList_iff fun a ha c hc hac => ?_
  obtain ⟨p, -, rfl⟩ := List.mem_map.mp ha
  obtain ⟨q, -, rfl⟩ := List.mem_map.mp hc
  exact Path.normalize_eq_of_same hac

end SourceSet

namespace Discovery

open FileSystem

/-- In the tree of a file system, the walk for Swift files from a workspace that names a
directory reaches the ways down to regular files whose every name neither starts with a dot nor
is `Carthage`. -/
theorem mem_walkFiles_walkedName_iff {fs : FileTree} {ws : Path}
    {dir : List String} (hws : fs.tree.resolve [] ws.text = .ok (dir, some .directory))
    (rel : List String) :
    rel ∈ fs.tree.walkFiles ws.text walkedName ↔
      fs.tree.FileBelow dir rel ∧ ∀ n ∈ rel, ¬n.startsWith "." ∧ n ≠ "Carthage" := by
  rw [Tree.mem_walkFiles_iff fs hws]
  simp [walkedName]

/-- The path of a file reached by a way down has the extension of the file's own name, so a
visible file's is `swift` exactly when its name ends in `.swift`. -/
theorem extension_of_fileBelow {fs : FileTree} {dir dirs : List String}
    {name : String} (hbelow : fs.tree.FileBelow dir (dirs ++ [name]))
    (hvisible : ¬name.startsWith ".")
    (ws : Path) :
    ((dirs ++ [name]).foldl Path.push ws).extension = some "swift" ↔
      ∃ stem, name = stem ++ ".swift" := by
  obtain ⟨c, x, hfile⟩ := (Tree.fileBelow_iff.mp hbelow).2.1
  have hname : Path.IsName name := fs.wellFormed.isName_of_node? hfile name (by simp)
  rw [Path.extension_foldl_push ws dirs hname, Path.nameExtension_eq_swift_iff hvisible]

/-- In the tree of a file system, the target of every Swift file of a workspace that names a
directory holds exactly the normalised paths of the regular files below it that a way down
through directories leads to, whose every name below the workspace neither starts with a dot
nor is `Carthage`, and whose name is a stem and `.swift`. It is named after the workspace's last
component, lives at the workspace, and has no compiler arguments of its own. -/
theorem walked_target_holds_visible_swift_files (fs : FileTree) (ws : Path)
    {dir : List String} (hws : fs.tree.resolve [] ws.text = .ok (dir, some .directory)) :
    (∀ x : Path, x ∈ (swiftFileTarget fs.tree ws).sources.toList ↔
      ∃ dirs name, fs.tree.FileBelow dir (dirs ++ [name]) ∧
        (∀ n ∈ dirs ++ [name], ¬n.startsWith "." ∧ n ≠ "Carthage") ∧
        (∃ stem, name = stem ++ ".swift") ∧
        x = ws.normalize ((dirs ++ [name]).foldl Path.push ws)) ∧
    (∀ n, ws.components.getLast? = some (.normal n) → (swiftFileTarget fs.tree ws).name = n) ∧
    (swiftFileTarget fs.tree ws).path = ws ∧ (swiftFileTarget fs.tree ws).compilerArguments = [] := by
  refine ⟨fun x => ?_, fun n hn => by simp [swiftFileTarget, Path.fileName, hn], rfl, rfl⟩
  simp only [swiftFileTarget]
  rw [SourceSet.mem_ofList_map_normalize]
  simp only [List.mem_map, List.mem_filter, beq_iff_eq]
  constructor
  · rintro ⟨_, ⟨⟨rel, hrel, rfl⟩, hswift⟩, rfl⟩
    obtain ⟨hbelow, hvisible⟩ := (mem_walkFiles_walkedName_iff hws rel).mp hrel
    obtain ⟨dirs, name, rfl⟩ : ∃ dirs name, rel = dirs ++ [name] :=
      ⟨_, _, (List.dropLast_append_getLast (Tree.fileBelow_iff.mp hbelow).1).symm⟩
    exact ⟨dirs, name, hbelow, hvisible,
      (extension_of_fileBelow hbelow (hvisible name (by simp)).1 ws).mp hswift, rfl⟩
  · rintro ⟨dirs, name, hbelow, hvisible, hswift, rfl⟩
    exact ⟨_, ⟨⟨_, (mem_walkFiles_walkedName_iff hws _).mpr ⟨hbelow, hvisible⟩, rfl⟩,
      (extension_of_fileBelow hbelow (hvisible name (by simp)).1 ws).mpr hswift⟩, rfl⟩

/-- A workspace `/ws` with a Swift file at its top, one in `Sources`, one in the hidden `.build`
and a text file. -/
def hiddenBuildTree : FileTree where
  tree := ⟨[([], .directory), (["ws"], .directory), (["ws", "a.swift"], .file "" false),
    (["ws", "Sources"], .directory), (["ws", "Sources", "b.swift"], .file "" false),
    (["ws", ".build"], .directory), (["ws", ".build", "c.swift"], .file "" false),
    (["ws", "notes.txt"], .file "" false)]⟩
  wellFormed := ⟨by decide +kernel, by simp [Path.IsName]⟩

/-- In the file system of a workspace with a hidden build directory, `/ws` names a directory, and
its walked target is as stated. -/
theorem walked_target_of_hidden_build_tree :
    hiddenBuildTree.tree.resolve [] "/ws" = .ok (["ws"], some .directory) ∧
    (∀ x : Path, x ∈ (swiftFileTarget hiddenBuildTree.tree ⟨"/ws"⟩).sources.toList ↔
      ∃ dirs name, hiddenBuildTree.tree.FileBelow ["ws"] (dirs ++ [name]) ∧
        (∀ n ∈ dirs ++ [name], ¬n.startsWith "." ∧ n ≠ "Carthage") ∧
        (∃ stem, name = stem ++ ".swift") ∧
        x = Path.normalize ⟨"/ws"⟩ ((dirs ++ [name]).foldl Path.push ⟨"/ws"⟩)) ∧
    (∀ n, (⟨"/ws"⟩ : Path).components.getLast? = some (.normal n) →
      (swiftFileTarget hiddenBuildTree.tree ⟨"/ws"⟩).name = n) ∧
    (swiftFileTarget hiddenBuildTree.tree ⟨"/ws"⟩).path = ⟨"/ws"⟩ ∧
    (swiftFileTarget hiddenBuildTree.tree ⟨"/ws"⟩).compilerArguments = [] := by
  have hws : hiddenBuildTree.tree.resolve [] "/ws" = .ok (["ws"], some .directory) := by
    have hparts : Tree.partsOf "/ws" = ["", "ws"] := by decide +kernel
    simp only [Tree.resolve, Tree.resolveWith, hparts]
    rw [Tree.walk]
    simp
    rw [Tree.walk]
    simp [Tree.node?, hiddenBuildTree]
    rw [Tree.walk]
    simp [Tree.node?]
  exact ⟨hws, walked_target_holds_visible_swift_files hiddenBuildTree ⟨"/ws"⟩ hws⟩

end Discovery

end SwiftDevEnv
