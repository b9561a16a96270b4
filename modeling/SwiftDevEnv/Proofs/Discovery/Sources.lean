import Mathlib
import SwiftDevEnv.Proofs.Path.Normalize
import SwiftDevEnv.Proofs.Target.Flatten

/-!
# Discovered sources are resolved paths

Each source of targets reports its files as paths normalised against a directory: the declared
targets' files against their directory, itself the declared directory normalised against the
workspace; the manifest's files and the walked files against the workspace; the package
description's files against the module's directory, normalised against the workspace. In an
absolute workspace each of these directories is absolute, so every discovered source is an
absolute path whose components are the root and names only, with no `.` and no `..`.
-/

namespace SwiftDevEnv

/-- A computation that succeeds after a first step succeeded with the value the rest was given. -/
theorem exists_of_bind_eq_ok {ε α β : Type} {x : Except ε α} {f : α → Except ε β} {b : β}
    (h : x >>= f = .ok b) : ∃ a, x = .ok a ∧ f a = .ok b := by
  cases x with
  | error e => cases h
  | ok a => exact ⟨a, rfl, h⟩

/-- Every entry of a list built by steps that each keep the entries they were given and add
entries with property `P` is an entry of the start or has `P`. -/
theorem mem_of_foldlM_eq_ok {ε α β : Type} {f : List α → β → Except ε (List α)} {P : α → Prop}
    (hf : ∀ acc b acc', f acc b = .ok acc' → ∀ x ∈ acc', x ∈ acc ∨ P x) :
    ∀ (bs : List β) {init res : List α}, bs.foldlM f init = .ok res → ∀ x ∈ res, x ∈ init ∨ P x
  | [], init, res, h => by
    cases h
    exact fun x hx => .inl hx
  | b :: bs, init, res, h => by
    rw [List.foldlM_cons] at h
    obtain ⟨acc, hacc, hrest⟩ := exists_of_bind_eq_ok h
    intro x hx
    rcases mem_of_foldlM_eq_ok hf bs hrest x hx with hx | hx
    · exact hf init b acc hacc x hx
    · exact .inr hx

namespace SourceSet

/-- A set built from a list holds paths of the list. -/
theorem mem_of_mem_ofList {ps : List Path} {x : Path} (h : x ∈ (ofList ps).toList) : x ∈ ps := by
  suffices ∀ (s : SourceSet), x ∈ (ps.foldl replace s).toList → x ∈ s.toList ∨ x ∈ ps by
    simpa [empty] using this empty h
  clear h
  induction ps with
  | nil => exact fun s hs => .inl hs
  | cons p ps ih =>
    intro s hs
    rcases ih (s.replace p) hs with hs | hs
    · rcases mem_replaceSorted hs with rfl | hs
      · exact .inr List.mem_cons_self
      · exact .inl hs
    · exact .inr (List.mem_cons_of_mem p hs)

end SourceSet

namespace Path

/-- A path normalised against an absolute directory is absolute, and its components are the root
and names, with no `.` and no `..`. -/
theorem resolved_of_normalize {b : Path} (hb : b.isAbsolute = true) (q : Path) :
    (b.normalize q).isAbsolute = true ∧
      ∀ c ∈ (b.normalize q).components, c ≠ .current ∧ c ≠ .parent := by
  refine ⟨by rw [isAbsolute_normalize, isAbsolute_join, hb, Bool.true_or], fun c hc => ?_⟩
  rw [components_normalize] at hc
  rcases List.mem_append.mp hc with hc | hc
  · split at hc <;> simp_all
  · obtain ⟨n, -, rfl⟩ := List.mem_map.mp hc
    simp

end Path

namespace Target

/-- Every source of the target is a path normalised against an absolute directory. -/
def Resolved (t : Target) : Prop :=
  ∀ s ∈ t.sources.toList, ∃ b q : Path, b.isAbsolute = true ∧ s = b.normalize q

/-- A target whose sources all come from normalising against one absolute directory is
resolved. -/
theorem resolved_of_ofList {t : Target} {b : Path} (hb : b.isAbsolute = true) {qs : List Path}
    (hsources : t.sources = SourceSet.ofList (qs.map b.normalize)) : t.Resolved := by
  intro s hs
  rw [hsources] at hs
  obtain ⟨q, -, rfl⟩ := List.mem_map.mp (SourceSet.mem_of_mem_ofList hs)
  exact ⟨b, q, hb, rfl⟩

end Target

namespace Discovery

open FileSystem

/-- Every file matched below a directory is normalised against it. -/
theorem matchingFiles_eq_map (t : Tree) (dir : Path) (patterns : Glob.PatternSet) :
    ∃ qs : List Path, matchingFiles t dir patterns = qs.map dir.normalize := by
  refine ⟨(t.walkFiles dir.text fun _ => true).filterMap fun rel =>
    if patterns.matches ("/".intercalate rel) then some (rel.foldl Path.push dir) else none, ?_⟩
  rw [matchingFiles, List.map_filterMap]
  congr 1
  funext rel
  split <;> rfl

section Workspace

variable {workspace : Path} (hws : workspace.isAbsolute = true)
include hws

/-- The declared targets have their files normalised against their directory, which is
normalised against the workspace. -/
theorem declaredTargets_resolved (t : Tree) (declared : List DeclaredTarget) {ts : List Target}
    (h : declaredTargets t workspace declared = .ok ts) : ∀ x ∈ ts, x.Resolved := by
  unfold declaredTargets at h
  refine fun x hx => (mem_of_foldlM_eq_ok (fun acc d acc' hstep => ?_) declared h x hx).resolve_left
    List.not_mem_nil
  simp only at hstep
  split at hstep
  · -- a relative directory that does not exist drops the target
    cases hstep
    exact fun x hx => .inl hx
  · obtain ⟨patterns, -, hadd⟩ := exists_of_bind_eq_ok hstep
    cases hadd
    intro x hx
    rcases List.mem_append.mp hx with hx | hx
    · exact .inl hx
    · rw [List.mem_singleton.mp hx]
      obtain ⟨qs, hqs⟩ := matchingFiles_eq_map t (workspace.normalize d.path) patterns
      exact .inr (Target.resolved_of_ofList (Path.resolved_of_normalize hws d.path).1
        (by rw [hqs]))

/-- The manifest's targets have their files normalised against the workspace. -/
theorem manifestTargetsOf_resolved (t : Tree) {ts : List Target}
    (h : manifestTargetsOf t workspace = .ok ts) : ∀ x ∈ ts, x.Resolved := by
  have hcommands : ∃ commands, ts = manifestTargets workspace commands := by
    unfold manifestTargetsOf at h
    simp only at h
    split at h <;>
    · obtain ⟨text, -, h⟩ := exists_of_bind_eq_ok h
      obtain ⟨commands, -, h⟩ := exists_of_bind_eq_ok h
      cases h
      exact ⟨commands, rfl⟩
  obtain ⟨commands, rfl⟩ := hcommands
  intro x hx
  obtain ⟨⟨name, v⟩, -, hx⟩ := List.mem_filterMap.mp hx
  simp only [bind, Option.bind_eq_some_iff] at hx
  obtain ⟨c, -, hc⟩ := hx
  split at hc
  · cases hc
  · cases hc
    exact @Target.resolved_of_ofList _ _ hws (c.sources.map Path.mk) (by rw [List.map_map]; rfl)

/-- The package description's targets have their files normalised against the module's
directory, which is normalised against the workspace. -/
theorem describedTargetsOf_resolved (t : Tree) (runs : KnownRuns) (o : Options)
    {ts : List Target} (h : describedTargetsOf t runs workspace o = .ok ts) :
    ∀ x ∈ ts, x.Resolved := by
  unfold describedTargetsOf at h
  obtain ⟨ended, -, h⟩ := exists_of_bind_eq_ok h
  split at h
  · cases h
  · obtain ⟨modules, -, h⟩ := exists_of_bind_eq_ok h
    cases h
    intro x hx
    obtain ⟨m, -, rfl⟩ := List.mem_map.mp hx
    exact Target.resolved_of_ofList (Path.resolved_of_normalize hws ⟨m.path⟩).1
      (by rw [List.map_map]; rfl)

/-- The walked target has its files normalised against the workspace. -/
theorem swiftFileTarget_resolved (t : Tree) : (swiftFileTarget t workspace).Resolved :=
  Target.resolved_of_ofList hws rfl

/-- Every target of every source of targets has its files normalised against an absolute
directory; a source that fails gives no target. -/
theorem providerGroups_resolved (t : Tree) (runs : KnownRuns) (o : Options) :
    ∀ g ∈ providerGroups t runs workspace o, ∀ x ∈ g, x.Resolved := by
  have horNone : ∀ r : Except DiscoveryError (List Target),
      (∀ ts, r = .ok ts → ∀ x ∈ ts, x.Resolved) → ∀ x ∈ orNone r, x.Resolved := by
    intro r hr x hx
    cases r with
    | error e => cases hx
    | ok ts => exact hr ts rfl x hx
  simp only [providerGroups, List.mem_cons, List.not_mem_nil, or_false]
  rintro g (rfl | rfl | rfl | rfl)
  · exact horNone _ fun ts h => declaredTargets_resolved hws t o.declared h
  · exact horNone _ fun ts h => manifestTargetsOf_resolved hws t h
  · exact horNone _ fun ts h => describedTargetsOf_resolved hws t runs o h
  · intro x hx
    rw [List.mem_singleton.mp hx]
    exact swiftFileTarget_resolved hws t

/-- Every discovered target has its files normalised against an absolute directory. A flattened
target keeps some of the sources of a target that a source of targets gave. -/
theorem discoverTargets_resolved (t : Tree) (runs : KnownRuns) (o : Options) :
    ∀ x ∈ discoverTargets t runs workspace o, x.Resolved := by
  intro x hx s hs
  rw [discoverTargets, flattenUnique_eq] at hx
  obtain ⟨y, hy, claimed, rfl⟩ := exists_of_mem_keptGroups hx
  obtain ⟨g, hg, hyg⟩ := List.mem_flatten.mp hy
  exact providerGroups_resolved hws t runs o g hg y hyg s
    ((y.keepUnclaimed_sources_sublist claimed).subset hs)

end Workspace

end Discovery

open Discovery

/-- A resolved target's sources are absolute paths without `.` and `..` components. -/
theorem Target.Resolved.sources {x : Target} (hx : x.Resolved) :
    ∀ s ∈ x.sources.toList, s.isAbsolute = true ∧
      ∀ c ∈ s.components, c ≠ .current ∧ c ≠ .parent := by
  intro s hs
  obtain ⟨b, q, hb, rfl⟩ := hx s hs
  exact Path.resolved_of_normalize hb q

/-- Normalising a path against a base gives an optional root, present when the base or the path
is absolute, followed only by names (none empty, `.`, `..` or holding a slash); a `..` on the
root or on an empty relative result is dropped; normalisation composes with joining, and an
absolute result is its own normal form against any base. So in an absolute workspace every
source that a source of targets reports, and every source of a discovered target, is absolute
and free of `.` and `..`. -/
theorem normalization_composes_and_resolves (base path : Path) :
    (∃ names : List String, (∀ n ∈ names, Path.IsName n) ∧
      (base.normalize path).components =
        (if (base.isAbsolute || path.isAbsolute) then [.root] else []) ++ names.map .normal) ∧
    (base.normalize path).isAbsolute = (base.isAbsolute || path.isAbsolute) ∧
    ((∀ c ∈ (base.normalize path).components, c = .root) →
      base.normalize (path.join ⟨".."⟩) = base.normalize path) ∧
    (∀ p q : Path, base.normalize (p.join q) = (base.normalize p).normalize q) ∧
    (∀ b : Path, (base.normalize path).isAbsolute = true →
      b.normalize (base.normalize path) = base.normalize path) ∧
    ∀ (workspace : Path) (tree : FileSystem.Tree) (runs : FileSystem.KnownRuns) (o : Options),
      workspace.isAbsolute = true →
      (∀ g ∈ providerGroups tree runs workspace o, ∀ x ∈ g, ∀ s ∈ x.sources.toList,
        s.isAbsolute = true ∧ ∀ c ∈ s.components, c ≠ .current ∧ c ≠ .parent) ∧
      ∀ x ∈ discoverTargets tree runs workspace o, ∀ s ∈ x.sources.toList,
        s.isAbsolute = true ∧ ∀ c ∈ s.components, c ≠ .current ∧ c ≠ .parent := by
  refine ⟨⟨_, Path.isName_of_mem_resolved base path, Path.components_normalize base path⟩,
    by rw [Path.isAbsolute_normalize, Path.isAbsolute_join],
    Path.normalize_join_parent_of_no_names base path, Path.normalize_join base,
    fun b h => Path.normalize_normalize_of_isAbsolute base path b h,
    fun workspace tree runs o hws => ⟨fun g hg x hx => ?_, fun x hx => ?_⟩⟩
  · exact (providerGroups_resolved hws tree runs o g hg x hx).sources
  · exact (discoverTargets_resolved hws tree runs o x hx).sources

/-- A `..` at the root is dropped, the root is its own normal form, and discovery in the
workspace `/ws` of an empty tree reports only resolved sources. -/
theorem parent_of_root_is_root :
    (∀ c ∈ (Path.normalize ⟨"/"⟩ ⟨".."⟩).components, c = .root) ∧
    Path.normalize ⟨"/"⟩ (Path.join ⟨".."⟩ ⟨".."⟩) = Path.normalize ⟨"/"⟩ ⟨".."⟩ ∧
    (Path.normalize ⟨"/"⟩ ⟨".."⟩).isAbsolute = true ∧
    Path.normalize ⟨"/ws"⟩ (Path.normalize ⟨"/"⟩ ⟨".."⟩) = Path.normalize ⟨"/"⟩ ⟨".."⟩ ∧
    (⟨"/ws"⟩ : Path).isAbsolute = true ∧
    ∀ x ∈ discoverTargets default [] ⟨"/ws"⟩ {}, ∀ s ∈ x.sources.toList,
      s.isAbsolute = true ∧ ∀ c ∈ s.components, c ≠ .current ∧ c ≠ .parent := by
  have hroot : ∀ c ∈ (Path.normalize ⟨"/"⟩ ⟨".."⟩).components, c = .root := by decide +kernel
  have habs : (Path.normalize ⟨"/"⟩ ⟨".."⟩).isAbsolute = true := by decide +kernel
  have hws : (⟨"/ws"⟩ : Path).isAbsolute = true := by decide +kernel
  obtain ⟨-, -, hparent, -, hfixed, hdiscover⟩ :=
    normalization_composes_and_resolves ⟨"/"⟩ ⟨".."⟩
  exact ⟨hroot, hparent hroot, habs, hfixed ⟨"/ws"⟩ habs, hws,
    (hdiscover ⟨"/ws"⟩ default [] {} hws).2⟩

end SwiftDevEnv
