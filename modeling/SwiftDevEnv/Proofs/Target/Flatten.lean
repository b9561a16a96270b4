import Mathlib
import SwiftDevEnv.Proofs.Target.Ownership
import SwiftDevEnv.Discovery.Workspace

/-!
# Flattening target groups: a file stays with the first group that names it

Discovery collects targets in groups, one group per source of targets, and flattens them. Every
target is kept, in order, with its name, directory and compiler arguments; it loses the sources
that a target of an earlier group already has. The set of claimed sources grows only once a
whole group is done, and from what its targets kept rather than from what they had; the main
lemma is that it is nonetheless the union of everything the earlier groups had, and at the same
time the union of everything they kept.

So targets of different groups share no source, every target keeps a part of its sources, and
no source is lost: the flattened targets have together exactly the sources the groups had. For
discovery this means that a file belongs only to targets of the first source of targets that
names it, and that the walked target keeps exactly the Swift files no earlier source names.
-/

namespace SwiftDevEnv

namespace SourceSet

/-- Keeping the paths that pass a test which treats paths naming one place alike keeps what the
set has that passes it. -/
theorem contains_filter (s : SourceSet) {f : Path → Bool}
    (hf : ∀ p q, p.same q = true → f p = f q) (q : Path) :
    (s.filter f).contains q = (s.contains q && f q) := by
  rw [Bool.eq_iff_iff, Bool.and_eq_true]
  simp only [contains, filter, List.any_eq_true, List.mem_filter]
  constructor
  · rintro ⟨r, ⟨hr, hfr⟩, hrq⟩
    exact ⟨⟨r, hr, hrq⟩, (hf r q hrq) ▸ hfr⟩
  · rintro ⟨⟨r, hr, hrq⟩, hfq⟩
    exact ⟨r, ⟨hr, (hf r q hrq).symm ▸ hfq⟩, hrq⟩

/-- The difference has the paths of the first set that the second lacks. -/
@[simp] theorem contains_diff (s t : SourceSet) (q : Path) :
    (s.diff t).contains q = (s.contains q && !t.contains q) :=
  s.contains_filter (fun _ _ h => by rw [t.contains_congr h]) q

@[simp] theorem contains_empty (q : Path) : empty.contains q = false := rfl

/-- Inserting paths one after another adds each of them to what the set has. -/
theorem contains_foldl_insert (s : SourceSet) (l : List Path) (q : Path) :
    (l.foldl insert s).contains q = (s.contains q || l.any (·.same q)) := by
  induction l generalizing s with
  | nil => simp
  | cons r l ih =>
    rw [List.foldl_cons, ih, Bool.eq_iff_iff]
    simp [contains_insert, or_assoc]

/-- The union has what either set has. -/
@[simp] theorem contains_union (s t : SourceSet) (q : Path) :
    (s.union t).contains q = (s.contains q || t.contains q) := by
  rw [union, contains_foldl_insert]
  rfl

end SourceSet

namespace Target

/-- The target with those of its sources, in their order, that no target of `earlier` has. -/
def keepUnclaimed (earlier : List Target) (t : Target) : Target :=
  { t with sources := t.sources.filter fun q => !earlier.any (·.contains q) }

@[simp] theorem header_keepUnclaimed (earlier : List Target) (t : Target) :
    (t.keepUnclaimed earlier).header = t.header := rfl

/-- A target keeps a source exactly when no target of `earlier` has it. -/
@[simp] theorem contains_keepUnclaimed (earlier : List Target) (t : Target) (q : Path) :
    (t.keepUnclaimed earlier).contains q = (t.contains q && !earlier.any (·.contains q)) := by
  refine t.sources.contains_filter (fun p r h => ?_) q
  simp only [contains, SourceSet.contains_congr _ h]

/-- A source a target keeps is one it had and no target of `earlier` has. -/
theorem contains_of_contains_keepUnclaimed {earlier : List Target} {t : Target} {q : Path}
    (h : (t.keepUnclaimed earlier).contains q = true) :
    t.contains q = true ∧ ∀ s ∈ earlier, s.contains q = false := by
  rw [contains_keepUnclaimed, Bool.and_eq_true, Bool.not_eq_eq_eq_not, Bool.not_true,
    List.any_eq_false] at h
  exact ⟨h.1, fun s hs => Bool.eq_false_iff.mpr (h.2 s hs)⟩

theorem keepUnclaimed_sources_sublist (earlier : List Target) (t : Target) :
    (t.keepUnclaimed earlier).sources.toList.Sublist t.sources.toList :=
  List.filter_sublist

end Target

/-- The groups as flattening leaves them after the targets `earlier`: each target of group `k`
with the sources that no target of `earlier` or of the groups before `k` has. -/
def keptGroups (earlier : List Target) (groups : List (List Target)) : List (List Target) :=
  groups.mapIdx fun k g => g.map (Target.keepUnclaimed (earlier ++ (groups.take k).flatten))

@[simp] theorem keptGroups_nil (earlier : List Target) : keptGroups earlier [] = [] := rfl

/-- The first group is measured against `earlier` alone; the rest against it and the first. -/
theorem keptGroups_cons (earlier g : List Target) (gs : List (List Target)) :
    keptGroups earlier (g :: gs) =
      g.map (Target.keepUnclaimed earlier) :: keptGroups (earlier ++ g) gs := by
  simp [keptGroups, List.mapIdx_cons, List.take_succ_cons, List.append_assoc]

/-- Every kept target is a target of the groups with the sources some earlier targets lack. -/
theorem exists_of_mem_keptGroups {earlier : List Target} {gs : List (List Target)} {u : Target}
    (hu : u ∈ (keptGroups earlier gs).flatten) :
    ∃ t ∈ gs.flatten, ∃ claimed, u = t.keepUnclaimed claimed := by
  induction gs generalizing earlier with
  | nil => simp at hu
  | cons g gs ih =>
    rw [keptGroups_cons, List.flatten_cons, List.mem_append] at hu
    rcases hu with hu | hu
    · obtain ⟨t, ht, rfl⟩ := List.mem_map.mp hu
      exact ⟨t, List.mem_append_left _ ht, earlier, rfl⟩
    · obtain ⟨t, ht, claimed, rfl⟩ := ih hu
      exact ⟨t, List.mem_append_right _ ht, claimed, rfl⟩

/-- A source kept by a target of the group after `earlier` is had by no target of `earlier`. -/
theorem contains_of_mem_keptGroups {earlier : List Target} {gs : List (List Target)}
    {b : List Target} (hb : b ∈ keptGroups earlier gs) {u : Target} (hu : u ∈ b) {q : Path}
    (hq : u.contains q = true) : ∀ s ∈ earlier, s.contains q = false := by
  induction gs generalizing earlier with
  | nil => simp at hb
  | cons g gs ih =>
    rw [keptGroups_cons, List.mem_cons] at hb
    rcases hb with rfl | hb
    · obtain ⟨t, -, rfl⟩ := List.mem_map.mp hu
      exact (Target.contains_of_contains_keepUnclaimed hq).2
    · intro s hs
      exact ih hb s (List.mem_append_left g hs)

/-- Claiming the sources of targets one after another adds what each of them has. -/
theorem contains_foldl_union (c : SourceSet) (ts : List Target) (q : Path) :
    (ts.foldl (fun c t => c.union t.sources) c).contains q = (c.contains q || ts.any (·.contains q)) := by
  induction ts generalizing c with
  | nil => simp
  | cons t ts ih =>
    rw [List.foldl_cons, ih, SourceSet.contains_union, List.any_cons, Bool.or_assoc]
    rfl

/-- One step of flattening, while the claimed set has exactly what the targets `earlier` have:
the group's targets keep what `earlier` lacks, and then what they kept is claimed. -/
theorem flattenStep_eq {earlier : List Target} {claimed : SourceSet}
    (hclaimed : ∀ q, claimed.contains q = earlier.any (·.contains q)) (done g : List Target) :
    flattenStep (done, claimed) g = (done ++ g.map (Target.keepUnclaimed earlier),
      (g.map (Target.keepUnclaimed earlier)).foldl (fun c t => c.union t.sources) claimed) := by
  have hkept : (g.map fun t => { t with sources := t.sources.diff claimed }) =
      g.map (Target.keepUnclaimed earlier) :=
    List.map_congr_left fun t _ => by simp only [Target.keepUnclaimed, SourceSet.diff, hclaimed]
  simp only [flattenStep, hkept]

/-- Flattening groups after targets `earlier`, from a claimed set that has exactly what they
have: each group is kept as `keptGroups` says, and the claimed set at the end has both what
`earlier` and the groups had and what was there before together with what was kept. -/
theorem foldl_flattenStep (groups : List (List Target)) {earlier : List Target}
    {claimed : SourceSet} (hclaimed : ∀ q, claimed.contains q = earlier.any (·.contains q))
    (done : List Target) :
    ∃ claimed' : SourceSet,
      groups.foldl flattenStep (done, claimed) = (done ++ (keptGroups earlier groups).flatten, claimed') ∧
      ∀ q, claimed'.contains q = (earlier ++ groups.flatten).any (·.contains q) ∧
        claimed'.contains q = (claimed.contains q || (keptGroups earlier groups).flatten.any (·.contains q)) := by
  induction groups generalizing earlier claimed done with
  | nil => exact ⟨claimed, by simp, fun q => by simp [hclaimed]⟩
  | cons g gs ih =>
    have hnext : ∀ q, ((g.map (Target.keepUnclaimed earlier)).foldl (fun c t => c.union t.sources)
        claimed).contains q = (earlier ++ g).any (·.contains q) := by
      intro q
      rw [contains_foldl_union, hclaimed, List.any_append, List.any_map]
      cases h : earlier.any (·.contains q) <;> simp [h, Function.comp_def]
    obtain ⟨claimed', hfold, hc⟩ := ih hnext (done ++ g.map (Target.keepUnclaimed earlier))
    refine ⟨claimed', ?_, fun q => ⟨?_, ?_⟩⟩
    · rw [List.foldl_cons, flattenStep_eq hclaimed, hfold, keptGroups_cons, List.flatten_cons,
        List.append_assoc]
    · rw [(hc q).1, List.flatten_cons, List.append_assoc]
    · rw [(hc q).2, contains_foldl_union, keptGroups_cons, List.flatten_cons, List.any_append,
        Bool.or_assoc]

/-- Flattening keeps every target of every group, in order, as `keptGroups` says. -/
theorem flattenUnique_eq (groups : List (List Target)) :
    flattenUnique groups = (keptGroups [] groups).flatten := by
  obtain ⟨claimed', hfold, -⟩ := @foldl_flattenStep groups [] SourceSet.empty (fun _ => rfl) []
  rw [flattenUnique, hfold, List.nil_append]

/-- No source is lost: the flattened targets have together what the groups had. -/
theorem any_contains_flattenUnique (groups : List (List Target)) (q : Path) :
    (flattenUnique groups).any (·.contains q) = groups.flatten.any (·.contains q) := by
  obtain ⟨claimed', -, hc⟩ := @foldl_flattenStep groups [] SourceSet.empty (fun _ => rfl) []
  rw [flattenUnique_eq, ← Bool.false_or (List.any _ _), ← SourceSet.contains_empty q, ← (hc q).2,
    (hc q).1, List.nil_append]

/-- Each flattened target stands for the target at its place, with the same name, directory and
compiler arguments and a part of its sources, in their order. -/
theorem forall₂_keptGroups (earlier : List Target) (groups : List (List Target)) :
    List.Forall₂ (fun u t => u.header = t.header ∧ u.sources.toList.Sublist t.sources.toList)
      (keptGroups earlier groups).flatten groups.flatten := by
  induction groups generalizing earlier with
  | nil => simp
  | cons g gs ih =>
    rw [keptGroups_cons, List.flatten_cons, List.flatten_cons]
    refine List.rel_append ?_ (ih _)
    rw [List.forall₂_map_left_iff, List.forall₂_same]
    exact fun t _ => ⟨rfl, t.keepUnclaimed_sources_sublist earlier⟩

/-- A source kept by a target of group `k` is had by no target of the groups before `k`. -/
theorem contains_of_getElem?_keptGroups {earlier : List Target} {groups : List (List Target)}
    {k : Nat} {b : List Target} (hb : (keptGroups earlier groups)[k]? = some b) {u : Target}
    (hu : u ∈ b) {q : Path} (hq : u.contains q = true) :
    ∀ t ∈ earlier ++ (groups.take k).flatten, t.contains q = false := by
  simp only [keptGroups, List.getElem?_mapIdx, Option.map_eq_some_iff] at hb
  obtain ⟨g, -, rfl⟩ := hb
  obtain ⟨t, -, rfl⟩ := List.mem_map.mp hu
  exact (Target.contains_of_contains_keepUnclaimed hq).2

/-- Targets of different groups share no source. What a target kept its original had, and a later
group keeps nothing an earlier group had. -/
theorem keptGroups_pairwise_apart (earlier : List Target) (groups : List (List Target)) :
    (keptGroups earlier groups).Pairwise fun a b => ∀ t ∈ a, ∀ u ∈ b, t.Apart u := by
  induction groups generalizing earlier with
  | nil => simp
  | cons g gs ih =>
    rw [keptGroups_cons, List.pairwise_cons]
    refine ⟨fun b hb t ht u hu q ⟨htq, huq⟩ => ?_, ih _⟩
    obtain ⟨t₀, ht₀, rfl⟩ := List.mem_map.mp ht
    have hown := (Target.contains_of_contains_keepUnclaimed htq).1
    have hlater := contains_of_mem_keptGroups hb hu huq t₀ (List.mem_append_right earlier ht₀)
    rw [hown] at hlater
    cases hlater

namespace Discovery

/-- The walked target comes last and keeps the files that no earlier source of targets has. -/
theorem discoverTargets_getLast? (t : FileSystem.Tree) (runs : FileSystem.KnownRuns)
    (workspace : Path) (o : Options) :
    (discoverTargets t runs workspace o).getLast? =
      some ((swiftFileTarget t workspace).keepUnclaimed
        ((providerGroups t runs workspace o).take 3).flatten) := by
  simp [discoverTargets, providerGroups, flattenUnique_eq, keptGroups_cons, List.append_assoc]

end Discovery

/-- Flattening keeps every target, in order, with its name, directory and compiler arguments and
those of its sources, in their order, that no target of an earlier group has; so targets of
different groups share no source, and the flattened targets have together exactly the sources
the groups had. In discovery the groups are the declared targets, the last build's manifest, the
package description and the walk, a failing source giving none; the walked target comes last
and keeps the walked files that no earlier source names. -/
theorem flattening_keeps_each_source_in_its_first_group (groups : List (List Target)) :
    flattenUnique groups = (keptGroups [] groups).flatten ∧
    List.Forall₂ (fun u t => u.header = t.header ∧ u.sources.toList.Sublist t.sources.toList)
      (flattenUnique groups) groups.flatten ∧
    (∀ k b, (keptGroups [] groups)[k]? = some b → ∀ u ∈ b, ∀ q, u.contains q = true →
      ∀ t ∈ (groups.take k).flatten, t.contains q = false) ∧
    (keptGroups [] groups).Pairwise (fun a b => ∀ t ∈ a, ∀ u ∈ b, t.Apart u) ∧
    (∀ q, (∃ u ∈ flattenUnique groups, u.contains q = true) ↔
      ∃ t ∈ groups.flatten, t.contains q = true) ∧
    ∀ (tree : FileSystem.Tree) (runs : FileSystem.KnownRuns) (workspace : Path)
      (o : Discovery.Options),
      Discovery.discoverTargets tree runs workspace o =
          (keptGroups [] (Discovery.providerGroups tree runs workspace o)).flatten ∧
        (Discovery.discoverTargets tree runs workspace o).getLast? =
          some ((Discovery.swiftFileTarget tree workspace).keepUnclaimed
            ((Discovery.providerGroups tree runs workspace o).take 3).flatten) := by
  have hkept : List.Forall₂ (fun u t => u.header = t.header ∧ u.sources.toList.Sublist t.sources.toList)
      (flattenUnique groups) groups.flatten := by
    rw [flattenUnique_eq]
    exact forall₂_keptGroups [] groups
  refine ⟨flattenUnique_eq groups, hkept, fun k b hb u hu q hq t ht => ?_,
    keptGroups_pairwise_apart [] groups, fun q => ?_, fun tree runs workspace o =>
      ⟨flattenUnique_eq _, Discovery.discoverTargets_getLast? tree runs workspace o⟩⟩
  · exact contains_of_getElem?_keptGroups hb hu hq t (List.mem_append_right [] ht)
  · rw [← List.any_eq_true, ← List.any_eq_true, any_contains_flattenUnique]

end SwiftDevEnv
