import Mathlib
import SwiftDevEnv.Proofs.Target.Ownership

/-!
# A new file joins the closest target that encloses it

When a file appears that no target has, the index gives it to the target whose directory
encloses it most closely. A directory encloses a file when its components are a prefix of the
file's, so `/ws/a-b/x` is not inside `/ws/a`. Of the enclosing targets the one with most
components wins, and of those with equally many the last in index order: the choice is made by
one pass over the enclosing targets that keeps the later candidate unless it is shallower, and
the main lemma says what that pass finds.

Registering a new file then puts it into exactly that target, which the lookup gives for the
file afterwards; forgetting the file again gives back the index as it was. A file no target
encloses is left out, and forgetting it changes nothing.
-/

namespace SwiftDevEnv

namespace Path

theorem startsWith_go_iff (as bs : List Component) : startsWith.go as bs = true ↔ bs <+: as := by
  induction bs generalizing as with
  | nil => simp [startsWith.go]
  | cons b bs ih =>
    cases as with
    | nil => simp [startsWith.go]
    | cons a as =>
      simp only [startsWith.go, Bool.and_eq_true, beq_iff_eq, ih, List.cons_prefix_cons]
      exact and_congr_left' eq_comm

/-- A path starts with a base when the base's components are a prefix of the path's. -/
theorem startsWith_iff {p base : Path} :
    p.startsWith base = true ↔ base.components <+: p.components :=
  startsWith_go_iff _ _

end Path

namespace SourceSet

/-- A set that lacks a path holds no path naming the same place. -/
theorem same_eq_false_of_contains_eq_false {s : SourceSet} {p : Path} (h : s.contains p = false) :
    ∀ r ∈ s.toList, r.same p = false := by
  simpa [contains] using h

/-- Erasing a path the set does not have changes nothing. -/
theorem erase_of_contains_eq_false {s : SourceSet} {p : Path} (h : s.contains p = false) :
    s.erase p = s := by
  have hnone := same_eq_false_of_contains_eq_false h
  exact ext (List.filter_eq_self.mpr fun r hr => by simp [hnone r hr])

/-- Inserting a path that no path of the list names the same place as, then dropping the paths
that name its place, gives back the list. -/
theorem filter_insertSorted {p : Path} {l : List Path} (h : ∀ r ∈ l, r.same p = false) :
    (insertSorted p l).filter (!·.same p) = l := by
  induction l with
  | nil => simp [insertSorted]
  | cons q rest ih =>
    have hq : q.same p = false := h q List.mem_cons_self
    have hrest : ∀ r ∈ rest, r.same p = false := fun r hr => h r (List.mem_cons_of_mem q hr)
    cases hcmp : p.compare q with
    | lt =>
      simp only [insertSorted, hcmp, List.filter_cons, Path.same_self, hq]
      simpa using hrest
    | eq =>
      have hsame : q.same p = true := Path.same_iff.mpr (Path.compareComponents_eq_iff.mp hcmp).symm
      simp [hsame] at hq
    | gt => simp [insertSorted, hcmp, hq, ih hrest]

/-- Inserting a path the set does not have and erasing it again gives back the set. -/
theorem erase_insert {s : SourceSet} {p : Path} (h : s.contains p = false) :
    (s.insert p).erase p = s := by
  exact ext (filter_insertSorted (same_eq_false_of_contains_eq_false h))

@[simp] theorem contains_insert_self (s : SourceSet) (p : Path) : (s.insert p).contains p = true :=
  (contains_insert s p p).mpr (.inr (Path.same_self p))

end SourceSet

namespace TargetIndex

/-- Target `i` is where a new file `p` goes: its directory encloses `p`, no enclosing target
has more components, and none after it has as many. -/
def IsClosestOwner (ix : TargetIndex) (p : Path) (i : Nat) : Prop :=
  ∃ t, ix.targets[i]? = some t ∧ t.path.components <+: p.components ∧
    ∀ j u, ix.targets[j]? = some u → u.path.components <+: p.components →
      u.path.depth ≤ t.path.depth ∧ (i < j → u.path.depth < t.path.depth)

/-- At most one target is the closest owner. -/
theorem IsClosestOwner.unique {ix : TargetIndex} {p : Path} {i j : Nat}
    (hi : ix.IsClosestOwner p i) (hj : ix.IsClosestOwner p j) : i = j := by
  obtain ⟨t, hti, htp, ht⟩ := hi
  obtain ⟨u, huj, hup, hu⟩ := hj
  have h₁ := ht j u huj hup
  have h₂ := hu i t hti htp
  rcases Nat.lt_trichotomy i j with hlt | heq | hgt
  · exact absurd (h₁.2 hlt) (by omega)
  · exact heq
  · exact absurd (h₂.2 hgt) (by omega)

/-- What the pass has found after the candidates `seen`: nothing if there were none, else the
position and depth of a candidate that no candidate seen is deeper than and no later one is as
deep as. -/
def BestOf (seen : List (Target × Nat)) : Option (Nat × Nat) → Prop
  | none => seen = []
  | some (j, d) => (∃ t, (t, j) ∈ seen ∧ d = t.path.depth) ∧
      ∀ u k, (u, k) ∈ seen → u.path.depth ≤ d ∧ (j < k → u.path.depth < d)

/-- One candidate, later than all seen, keeps the pass's answer right. -/
theorem BestOf.next {seen : List (Target × Nat)} {best : Option (Nat × Nat)}
    (h : BestOf seen best) {t : Target} {i : Nat} (hlater : ∀ x ∈ seen, x.2 < i) :
    BestOf (seen ++ [(t, i)]) (closerOwner best (t, i)) := by
  cases best with
  | none =>
    cases h
    refine ⟨⟨t, by simp, rfl⟩, fun u k huk => ?_⟩
    obtain ⟨⟩ := List.mem_singleton.mp huk
    exact ⟨le_rfl, fun hlt => absurd hlt (lt_irrefl _)⟩
  | some best =>
    obtain ⟨j, d⟩ := best
    obtain ⟨⟨t₀, ht₀, rfl⟩, hbest⟩ := h
    by_cases hdeep : t.path.depth ≥ t₀.path.depth
    · -- the new candidate is at least as deep, and no candidate comes after it
      simp only [closerOwner, if_pos hdeep]
      refine ⟨⟨t, by simp, rfl⟩, fun u k huk => ?_⟩
      rcases List.mem_append.mp huk with huk | huk
      · have hk := hlater _ huk
        exact ⟨(hbest u k huk).1.trans hdeep, fun hlt => absurd hlt (by simp at hk; omega)⟩
      · obtain ⟨⟩ := List.mem_singleton.mp huk
        exact ⟨le_rfl, fun hlt => absurd hlt (lt_irrefl _)⟩
    · -- the new candidate is shallower and the best so far stays
      simp only [closerOwner, if_neg hdeep]
      refine ⟨⟨t₀, List.mem_append_left _ ht₀, rfl⟩, fun u k huk => ?_⟩
      rcases List.mem_append.mp huk with huk | huk
      · exact hbest u k huk
      · obtain ⟨⟩ := List.mem_singleton.mp huk
        exact ⟨by omega, fun _ => by omega⟩

/-- The pass over candidates in increasing positions finds the best of them. -/
theorem bestOf_foldl_closerOwner (l : List (Target × Nat)) {seen : List (Target × Nat)}
    {best : Option (Nat × Nat)} (h : BestOf seen best)
    (hsorted : (seen ++ l).Pairwise fun x y => x.2 < y.2) :
    BestOf (seen ++ l) (l.foldl closerOwner best) := by
  induction l generalizing seen best with
  | nil => simpa using h
  | cons x l ih =>
    have hlater : ∀ y ∈ seen, y.2 < x.2 :=
      fun y hy => (List.pairwise_append.mp hsorted).2.2 y hy x List.mem_cons_self
    rw [List.foldl_cons, show seen ++ x :: l = (seen ++ [x]) ++ l by simp]
    exact ih (h.next hlater) (by simpa using hsorted)

theorem zipIdx_pairwise_snd_lt {α : Type} (l : List α) (n : Nat) :
    (l.zipIdx n).Pairwise fun x y => x.2 < y.2 := by
  induction l generalizing n with
  | nil => simp
  | cons a l ih =>
    rw [List.zipIdx_cons, List.pairwise_cons]
    exact ⟨fun y hy => List.le_snd_of_mem_zipIdx hy, ih (n + 1)⟩

variable {ix : TargetIndex} {p : Path}

/-- A target encloses the file when its directory's components are a prefix of the file's. -/
theorem mem_enclosing {t : Target} {k : Nat} :
    (t, k) ∈ ix.enclosing p ↔ ix.targets[k]? = some t ∧ t.path.components <+: p.components := by
  simp [enclosing, List.mem_zipIdx_iff_getElem?, Path.startsWith_iff]

/-- The pass over the enclosing targets finds the best of them. -/
theorem bestOf_enclosing (ix : TargetIndex) (p : Path) :
    BestOf (ix.enclosing p) ((ix.enclosing p).foldl closerOwner none) := by
  have hsorted : ([] ++ ix.enclosing p).Pairwise fun (x y : Target × Nat) => x.2 < y.2 := by
    rw [List.nil_append]
    exact (zipIdx_pairwise_snd_lt ix.targets 0).filter _
  have h := @bestOf_foldl_closerOwner (ix.enclosing p) [] none rfl hsorted
  rwa [List.nil_append] at h

/-- No target is chosen exactly when none encloses the file. -/
theorem closestOwner_eq_none_iff :
    ix.closestOwner p = none ↔ ∀ t ∈ ix.targets, ¬t.path.components <+: p.components := by
  have hbest := bestOf_enclosing ix p
  rw [closestOwner, Option.map_eq_none_iff]
  constructor
  · intro hnone t ht hpre
    rw [hnone] at hbest
    obtain ⟨k, hk⟩ := List.getElem?_of_mem ht
    have hmem : (t, k) ∈ ix.enclosing p := mem_enclosing.mpr ⟨hk, hpre⟩
    simp [show ix.enclosing p = [] from hbest] at hmem
  · intro hno
    cases hfold : (ix.enclosing p).foldl closerOwner none with
    | none => rfl
    | some best =>
      rw [hfold] at hbest
      obtain ⟨⟨t, ht, -⟩, -⟩ := hbest
      obtain ⟨hk, hpre⟩ := mem_enclosing.mp ht
      exact absurd hpre (hno t (List.mem_of_getElem? hk))

/-- A chosen target is the closest owner. -/
theorem isClosestOwner_of_closestOwner_eq_some {i : Nat} (h : ix.closestOwner p = some i) :
    ix.IsClosestOwner p i := by
  have hbest := bestOf_enclosing ix p
  rw [closestOwner, Option.map_eq_some_iff] at h
  obtain ⟨⟨j, d⟩, hfold, rfl⟩ := h
  rw [hfold] at hbest
  obtain ⟨⟨t, ht, rfl⟩, hall⟩ := hbest
  obtain ⟨hk, hpre⟩ := mem_enclosing.mp ht
  exact ⟨t, hk, hpre, fun k u hu hupre => hall u k (mem_enclosing.mpr ⟨hu, hupre⟩)⟩

/-- The pass chooses exactly the closest owner. -/
theorem closestOwner_eq_some_iff {i : Nat} : ix.closestOwner p = some i ↔ ix.IsClosestOwner p i := by
  refine ⟨isClosestOwner_of_closestOwner_eq_some, fun hi => ?_⟩
  cases h : ix.closestOwner p with
  | none =>
    obtain ⟨t, ht, hpre, -⟩ := hi
    exact absurd hpre (closestOwner_eq_none_iff.mp h t (List.mem_of_getElem? ht))
  | some j => rw [(isClosestOwner_of_closestOwner_eq_some h).unique hi]

section NewFile

variable (hnew : ∀ t ∈ ix.targets, t.contains p = false)
include hnew

/-- Forgetting a file no target has gives back the targets as they are. -/
theorem map_erase_of_new :
    ix.targets.map (fun t => { t with sources := t.sources.erase p }) = ix.targets := by
  conv_rhs => rw [← List.map_id ix.targets]
  refine List.map_congr_left fun t ht => ?_
  rw [SourceSet.erase_of_contains_eq_false (hnew t ht)]
  rfl

/-- A file no target encloses is left out. -/
theorem sourceCreated_of_closestOwner_eq_none (h : ix.closestOwner p = none) :
    ix.sourceCreated p = (ix, none) := by
  have hfind : ix.find? p = none := List.find?_eq_none.mpr fun t ht => by simp [hnew t ht]
  simp [sourceCreated, hfind, h]

/-- A new file joins the chosen target, and the answer is that target's name. -/
theorem sourceCreated_of_closestOwner_eq_some {i : Nat} {t : Target} (h : ix.closestOwner p = some i)
    (ht : ix.targets[i]? = some t) :
    ix.sourceCreated p = (⟨ix.targets.set i { t with sources := t.sources.insert p }⟩, some t.name) := by
  have hfind : ix.find? p = none := List.find?_eq_none.mpr fun t ht => by simp [hnew t ht]
  have hmodify : ix.targets.modify i (fun t => { t with sources := t.sources.insert p }) =
      ix.targets.set i { t with sources := t.sources.insert p } := by
    rw [List.modify_eq_set, ht, Option.getD_some]
  obtain ⟨hi, -⟩ := List.getElem?_eq_some_iff.mp ht
  simp [sourceCreated, hfind, h, hmodify, hi]

/-- Forgetting a file no target has changes nothing and reports that no target had it. -/
theorem sourceDeleted_of_new : ix.sourceDeleted p = (ix, false) := by
  have hany : ix.targets.any (·.contains p) = false :=
    List.any_eq_false.mpr fun t ht => by simp [hnew t ht]
  simp only [sourceDeleted, map_erase_of_new hnew, hany]

section Joined

variable {i : Nat} {t : Target} (ht : ix.targets[i]? = some t)
include ht

/-- After the file joins target `i`, that target is the only one to have it. -/
theorem countP_contains_set_insert :
    (ix.targets.set i { t with sources := t.sources.insert p }).countP (·.contains p) = 1 := by
  obtain ⟨hi, rfl⟩ := List.getElem?_eq_some_iff.mp ht
  rw [List.countP_set hi, List.countP_eq_zero.mpr fun u hu => by simp [hnew u hu],
    hnew _ (List.getElem_mem hi)]
  simp [Target.contains]

/-- After the file joins target `i`, the lookup gives that target: every target before it
lacks the file. -/
theorem targetFor_set_insert :
    (⟨ix.targets.set i { t with sources := t.sources.insert p }⟩ : TargetIndex).targetFor p =
      { t with sources := t.sources.insert p } := by
  obtain ⟨hi, rfl⟩ := List.getElem?_eq_some_iff.mp ht
  have hfind : (ix.targets.set i { ix.targets[i] with sources := ix.targets[i].sources.insert p }).find?
      (·.contains p) = some { ix.targets[i] with sources := ix.targets[i].sources.insert p } := by
    rw [List.find?_eq_some_iff_getElem]
    refine ⟨by simp [Target.contains], i, by simpa using hi, by simp, fun j hj => ?_⟩
    rw [List.getElem_set_ne (by omega)]
    simp [hnew _ (List.getElem_mem _)]
  rw [targetFor, find?, hfind, Option.getD_some]

/-- Forgetting the file after it joined target `i` gives back the index, and reports that a target
had it. Erasing undoes the insertion in target `i` and leaves every other target as it was. -/
theorem sourceDeleted_set_insert :
    (⟨ix.targets.set i { t with sources := t.sources.insert p }⟩ : TargetIndex).sourceDeleted p =
      (ix, true) := by
  have hcount := countP_contains_set_insert hnew ht
  obtain ⟨hi, rfl⟩ := List.getElem?_eq_some_iff.mp ht
  have hany : (ix.targets.set i { ix.targets[i] with sources := ix.targets[i].sources.insert p }).any
      (·.contains p) = true := by
    rw [List.any_eq_true, ← List.countP_pos_iff, hcount]
    exact Nat.one_pos
  have hback : { ix.targets[i] with sources := (ix.targets[i].sources.insert p).erase p } =
      ix.targets[i] := by
    rw [SourceSet.erase_insert (hnew _ (List.getElem_mem hi))]
  simp only [sourceDeleted, List.map_set, map_erase_of_new hnew, hback, List.set_getElem_self, hany]

end Joined

end NewFile

/-- Registering a file that no target has gives it to a target exactly when some target's
directory encloses it (its components are a prefix of the file's). Then the file joins exactly
one target: among the enclosing targets, one with most components, the last such in index
order; the answer is that target's name, the lookup gives that target for the file, and
forgetting the file gives back the index as it was and reports that a target had it. When no
target encloses the file, nothing changes and forgetting it reports that none had it. A file
some target has already leaves the index as it is, answered with the name of its first
owner. -/
theorem new_file_joins_deepest_enclosing_target (ix : TargetIndex) (p : Path) :
    ((∀ t ∈ ix.targets, t.contains p = false) →
      ((ix.sourceCreated p).2.isSome ↔ ∃ t ∈ ix.targets, t.path.components <+: p.components) ∧
      (∀ n, (ix.sourceCreated p).2 = some n → ∃ i t, ix.IsClosestOwner p i ∧
        ix.targets[i]? = some t ∧ n = t.name ∧
        (ix.sourceCreated p).1.targets = ix.targets.set i { t with sources := t.sources.insert p } ∧
        (ix.sourceCreated p).1.targets.countP (·.contains p) = 1 ∧
        (ix.sourceCreated p).1.targetFor p = { t with sources := t.sources.insert p } ∧
        (ix.sourceCreated p).1.sourceDeleted p = (ix, true)) ∧
      ((ix.sourceCreated p).2 = none →
        ix.sourceCreated p = (ix, none) ∧ ix.sourceDeleted p = (ix, false))) ∧
    ∀ owner, ix.find? p = some owner → ix.sourceCreated p = (ix, some owner.name) := by
  refine ⟨fun hnew => ?_, fun owner h => by simp [sourceCreated, h]⟩
  cases hc : ix.closestOwner p with
  | none =>
    rw [sourceCreated_of_closestOwner_eq_none hnew hc]
    refine ⟨?_, fun n hn => by simp at hn, fun _ => ⟨rfl, sourceDeleted_of_new hnew⟩⟩
    simpa using closestOwner_eq_none_iff.mp hc
  | some i =>
    have hi := isClosestOwner_of_closestOwner_eq_some hc
    obtain ⟨t, ht, hpre, -⟩ := id hi
    rw [sourceCreated_of_closestOwner_eq_some hnew hc ht]
    refine ⟨⟨fun _ => ⟨t, List.mem_of_getElem? ht, hpre⟩, fun _ => rfl⟩, fun n hn => ?_,
      fun hn => by simp at hn⟩
    exact ⟨i, t, hi, ht, (Option.some.inj hn).symm, rfl, countP_contains_set_insert hnew ht,
      targetFor_set_insert hnew ht, sourceDeleted_set_insert hnew ht⟩

/-- A workspace target and an application target inside it: a new file of the application joins
the application, whose directory is deeper, and forgetting the file gives the index back. -/
theorem new_file_joins_the_application :
    (∀ t ∈ (⟨[⟨"ws", ⟨"/ws"⟩, .empty, []⟩, ⟨"App", ⟨"/ws/Sources/App"⟩, .empty, []⟩]⟩ :
        TargetIndex).targets, t.contains ⟨"/ws/Sources/App/new.swift"⟩ = false) ∧
    (((⟨[⟨"ws", ⟨"/ws"⟩, .empty, []⟩, ⟨"App", ⟨"/ws/Sources/App"⟩, .empty, []⟩]⟩ :
        TargetIndex).sourceCreated ⟨"/ws/Sources/App/new.swift"⟩).1.targetFor
          ⟨"/ws/Sources/App/new.swift"⟩).name = "App" ∧
    ((⟨[⟨"ws", ⟨"/ws"⟩, .empty, []⟩, ⟨"App", ⟨"/ws/Sources/App"⟩, .empty, []⟩]⟩ :
        TargetIndex).sourceCreated ⟨"/ws/Sources/App/new.swift"⟩).1.sourceDeleted
          ⟨"/ws/Sources/App/new.swift"⟩ =
      (⟨[⟨"ws", ⟨"/ws"⟩, .empty, []⟩, ⟨"App", ⟨"/ws/Sources/App"⟩, .empty, []⟩]⟩, true) := by
  have hnew : ∀ t ∈ (⟨[⟨"ws", ⟨"/ws"⟩, .empty, []⟩, ⟨"App", ⟨"/ws/Sources/App"⟩, .empty, []⟩]⟩ :
      TargetIndex).targets, t.contains ⟨"/ws/Sources/App/new.swift"⟩ = false := by decide
  have hname : ((⟨[⟨"ws", ⟨"/ws"⟩, .empty, []⟩, ⟨"App", ⟨"/ws/Sources/App"⟩, .empty, []⟩]⟩ :
      TargetIndex).sourceCreated ⟨"/ws/Sources/App/new.swift"⟩).2 = some "App" := by
    decide +kernel
  obtain ⟨i, t, -, -, hn, -, -, hfor, hdel⟩ :=
    ((new_file_joins_deepest_enclosing_target _ _).1 hnew).2.1 "App" hname
  exact ⟨hnew, by rw [hfor, hn], hdel⟩

end TargetIndex

end SwiftDevEnv
