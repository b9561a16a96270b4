import Mathlib
import SwiftDevEnv.Target.Index

/-!
# Every source file has at most one owner

The target index answers for a source file with the first target that has it, and that answer
is the file's owner only while no other target has the file too. A workspace calls the index in
five ways: it looks a file up, registers a new file, forgets a deleted one, and asks for the
number of targets or for the targets themselves. None of these adds, drops, reorders or renames
a target, or changes its directory or compiler arguments. A new file joins a target only when no
target has it yet, and a deleted file leaves every target that had it.

So targets whose sources are pairwise disjoint stay so along every run of calls: every file then
has at most one owner, the lookup gives that owner, and a file no target has gets a target of its
own. Paths are compared by their components, so a target has a path when it has one naming the
same place; two paths naming the same place are had, or not, alike.
-/

namespace SwiftDevEnv

namespace Path

/-- Two paths name the same place exactly when their components are equal. -/
theorem same_iff {p q : Path} : p.same q = true ↔ p.components = q.components := by
  simp [same, compare, compareComponents_eq_iff]

@[simp] theorem same_self (p : Path) : p.same p = true := same_iff.mpr rfl

end Path

namespace SourceSet

/-- A set has a path when it holds one with the same components. -/
theorem contains_iff {s : SourceSet} {q : Path} :
    s.contains q = true ↔ ∃ r ∈ s.toList, r.components = q.components := by
  simp [contains, Path.same_iff]

/-- Paths that name the same place are had alike. -/
theorem contains_congr (s : SourceSet) {p q : Path} (h : p.same q = true) :
    s.contains p = s.contains q := by
  rw [Bool.eq_iff_iff, contains_iff, contains_iff, Path.same_iff.mp h]

/-- Sorted insertion holds what the list held and the place of the new path: either the path
itself, or an equal path already there. -/
theorem exists_mem_insertSorted (p q : Path) (l : List Path) :
    (∃ r ∈ insertSorted p l, r.components = q.components) ↔
      (∃ r ∈ l, r.components = q.components) ∨ p.components = q.components := by
  induction l with
  | nil => simp [insertSorted]
  | cons r rest ih =>
    cases h : p.compare r with
    | lt => simp [insertSorted, h, or_comm]
    | eq =>
      have hpr : p.components = r.components := Path.compareComponents_eq_iff.mp h
      simp only [insertSorted, h]
      grind
    | gt => simp [insertSorted, h, ih, or_assoc]

/-- After an insertion the set has the new path, and what it had before. -/
theorem contains_insert (s : SourceSet) (p q : Path) :
    (s.insert p).contains q = true ↔ s.contains q = true ∨ p.same q = true := by
  rw [insert, contains_iff, contains_iff, exists_mem_insertSorted, Path.same_iff]

/-- After an erasure the set has what it had, except the paths naming the erased place. -/
theorem contains_erase (s : SourceSet) (p q : Path) :
    (s.erase p).contains q = true ↔ s.contains q = true ∧ p.same q = false := by
  simp only [erase, filter, contains_iff, List.mem_filter, Bool.not_eq_eq_eq_not, Bool.not_true,
    ← Bool.not_eq_true, Path.same_iff]
  grind

/-- A path erased is had no more. -/
@[simp] theorem contains_erase_self (s : SourceSet) (p : Path) : (s.erase p).contains p = false := by
  rw [Bool.eq_false_iff, ne_eq, contains_erase]
  simp

end SourceSet

section Modify

variable {α β : Type} {f : α → α}

/-- Changing one entry by a map that `g` does not see leaves the list's image under `g`. -/
theorem map_modify_eq_map {g : α → β} (hf : ∀ a, g (f a) = g a) (l : List α) (k : Nat) :
    (l.modify k f).map g = l.map g := by
  apply List.ext_getElem?
  intro j
  simp only [List.getElem?_map, List.getElem?_modify]
  cases l[j]? <;> by_cases hkj : k = j <;> simp [hkj, hf]

/-- Changing one entry keeps a list pairwise related when the change keeps each related pair
related. At most one of two positions is the changed one. -/
theorem pairwise_modify {R : α → α → Prop} {l : List α} (hl : l.Pairwise R)
    (hf : ∀ a ∈ l, ∀ b ∈ l, R a b → R (f a) b ∧ R a (f b)) (k : Nat) :
    (l.modify k f).Pairwise R := by
  rw [List.pairwise_iff_getElem] at hl ⊢
  intro i j hi hj hij
  have hi' : i < l.length := by simpa using hi
  have hj' : j < l.length := by simpa using hj
  have hR := hl i j hi' hj' hij
  have hfR := hf _ (List.getElem_mem hi') _ (List.getElem_mem hj') hR
  rw [List.getElem_modify, List.getElem_modify]
  by_cases hki : k = i
  · rw [if_pos hki, if_neg (by omega)]
    exact hfR.1
  · by_cases hkj : k = j
    · rw [if_neg hki, if_pos hkj]
      exact hfR.2
    · rw [if_neg hki, if_neg hkj]
      exact hR

/-- In a list where no two entries both satisfy `P`, at most one does. -/
theorem countP_le_one_of_pairwise {P : α → Bool} {l : List α}
    (h : l.Pairwise fun a b => ¬(P a = true ∧ P b = true)) : l.countP P ≤ 1 := by
  induction h with
  | nil => simp
  | @cons a l hall _ ih =>
    rw [List.countP_cons]
    by_cases ha : P a = true
    · -- the first entry satisfies `P`, so none after it does
      have hrest : l.countP P = 0 := List.countP_eq_zero.mpr fun b hb hb' => hall b hb ⟨ha, hb'⟩
      simp [hrest, ha]
    · simpa [ha] using ih

end Modify

namespace Target

/-- A target's name, directory and compiler arguments: all of it but its sources. -/
def header (t : Target) : String × Path × List String := (t.name, t.path, t.compilerArguments)

/-- Two targets share no source. -/
def Apart (s t : Target) : Prop := ∀ q, ¬(s.contains q = true ∧ t.contains q = true)

variable {s t : Target} {p : Path}

theorem Apart.symm (h : s.Apart t) : t.Apart s := fun q hq => h q hq.symm

instance : Std.Symm Apart := ⟨fun _ _ h => h.symm⟩

/-- Erasing a path from both keeps two targets apart. -/
theorem Apart.erase (h : s.Apart t) (p : Path) :
    Apart { s with sources := s.sources.erase p } { t with sources := t.sources.erase p } := by
  intro q ⟨hs, ht⟩
  simp only [contains, SourceSet.contains_erase] at hs ht
  exact h q ⟨hs.1, ht.1⟩

/-- A path the other target lacks can join a target without bringing the two together. -/
theorem Apart.insert (h : s.Apart t) (ht : t.contains p = false) :
    Apart { s with sources := s.sources.insert p } t := by
  intro q ⟨hs, hq⟩
  simp only [contains, SourceSet.contains_insert] at hs
  rcases hs with hs | hpq
  · exact h q ⟨hs, hq⟩
  · -- the other target would have the new path under another spelling
    have hp : t.contains p = true := (t.sources.contains_congr hpq).trans hq
    simp [hp] at ht

end Target

namespace TargetIndex

/-- A call a workspace makes on its target index. -/
inductive Call where
  | lookup (p : Path)
  | created (p : Path)
  | deleted (p : Path)
  | count
  | list

/-- The index after a call: a new file is registered and a deleted one forgotten; a lookup and
the questions for the count and the list of targets leave the index as it is. -/
def call (ix : TargetIndex) : Call → TargetIndex
  | .created p => (ix.sourceCreated p).1
  | .deleted p => (ix.sourceDeleted p).1
  | .lookup _ | .count | .list => ix

/-- The index after a sequence of calls. -/
def run (ix : TargetIndex) : List Call → TargetIndex
  | [] => ix
  | c :: cs => (ix.call c).run cs

/-- No two targets of the index share a source. -/
def SourcesDisjoint (ix : TargetIndex) : Prop := ix.targets.Pairwise Target.Apart

variable {ix : TargetIndex} {p : Path}

/-- A file some target has is found. -/
theorem find?_eq_some_of_contains {t : Target} (ht : t ∈ ix.targets) (hp : t.contains p = true) :
    ∃ owner, ix.find? p = some owner := by
  cases hf : ix.find? p with
  | none =>
    have hnot := List.find?_eq_none.mp hf t ht
    simp [hp] at hnot
  | some owner => exact ⟨owner, rfl⟩

/-- A file some target has already leaves the index as it is; the answer names its first
owner. -/
theorem sourceCreated_of_contains {t : Target} (ht : t ∈ ix.targets) (hp : t.contains p = true) :
    ix.sourceCreated p = (ix, some (ix.targetFor p).name) := by
  obtain ⟨owner, hf⟩ := find?_eq_some_of_contains ht hp
  simp [sourceCreated, targetFor, hf]

/-- What registering a file does to the targets: nothing, or, when no target has the file yet,
it joins the sources of one target. -/
theorem sourceCreated_targets (ix : TargetIndex) (p : Path) :
    (ix.sourceCreated p).1.targets = ix.targets ∨
      ((∀ t ∈ ix.targets, t.contains p = false) ∧ ∃ i, (ix.sourceCreated p).1.targets =
        ix.targets.modify i fun t => { t with sources := t.sources.insert p }) := by
  unfold sourceCreated
  cases hf : ix.find? p with
  | some owner => exact .inl rfl
  | none =>
    cases ho : ix.closestOwner p with
    | none => exact .inl rfl
    | some i =>
      refine .inr ⟨fun t ht => ?_, i, rfl⟩
      simpa using List.find?_eq_none.mp hf t ht

/-- What a call can do to the targets: keep them, give one target a file that no target has, or
take a file out of every target. -/
theorem call_targets (ix : TargetIndex) (c : Call) :
    (ix.call c).targets = ix.targets ∨
      (∃ p, (∀ t ∈ ix.targets, t.contains p = false) ∧ ∃ i, (ix.call c).targets =
        ix.targets.modify i fun t => { t with sources := t.sources.insert p }) ∨
      ∃ p, (ix.call c).targets = ix.targets.map fun t => { t with sources := t.sources.erase p } := by
  cases c with
  | created p =>
    rcases sourceCreated_targets ix p with h | ⟨hnew, i, h⟩
    · exact .inl h
    · exact .inr (.inl ⟨p, hnew, i, h⟩)
  | deleted p => exact .inr (.inr ⟨p, rfl⟩)
  | lookup _ | count | list => exact .inl rfl

/-- A call changes no target's name, directory or compiler arguments, nor the number or the
order of the targets. -/
theorem call_headers (ix : TargetIndex) (c : Call) :
    (ix.call c).targets.map Target.header = ix.targets.map Target.header := by
  rcases call_targets ix c with hc | ⟨p, -, i, hc⟩ | ⟨p, hc⟩ <;> rw [hc]
  · apply map_modify_eq_map
    intro t
    rfl
  · simp [Function.comp_def, Target.header]

/-- Along every run of calls the targets keep their number, order and headers. -/
theorem run_headers (ix : TargetIndex) (calls : List Call) :
    (ix.run calls).targets.map Target.header = ix.targets.map Target.header := by
  induction calls generalizing ix with
  | nil => rfl
  | cons c cs ih => rw [run, ih, call_headers]

/-- A call keeps the targets free of shared sources. -/
theorem SourcesDisjoint.call (h : ix.SourcesDisjoint) (c : Call) : (ix.call c).SourcesDisjoint := by
  unfold SourcesDisjoint at h ⊢
  rcases call_targets ix c with hc | ⟨p, hnew, i, hc⟩ | ⟨p, hc⟩ <;> rw [hc]
  · exact h
  · -- the file joins one target, and every other target lacks it
    exact pairwise_modify h
      (fun a ha b hb hab => ⟨hab.insert (hnew b hb), (hab.symm.insert (hnew a ha)).symm⟩) i
  · exact List.pairwise_map.mpr (h.imp fun hab => hab.erase p)

/-- Along every run of calls the targets stay free of shared sources. -/
theorem SourcesDisjoint.run (h : ix.SourcesDisjoint) (calls : List Call) :
    (ix.run calls).SourcesDisjoint := by
  induction calls generalizing ix with
  | nil => exact h
  | cons c cs ih => exact ih (h.call c)

/-- In an index whose targets share no source, a file has at most one owner. -/
theorem SourcesDisjoint.countP_contains_le_one (h : ix.SourcesDisjoint) (q : Path) :
    ix.targets.countP (·.contains q) ≤ 1 :=
  countP_le_one_of_pairwise (h.imp fun hst => hst q)

/-- In an index whose targets share no source, the lookup gives a file's owner. A first owner other
than the target would share the file with it. -/
theorem SourcesDisjoint.targetFor_eq (h : ix.SourcesDisjoint) {t : Target} (ht : t ∈ ix.targets)
    (hp : t.contains p = true) : ix.targetFor p = t := by
  obtain ⟨owner, hf⟩ := find?_eq_some_of_contains ht hp
  have hmem : owner ∈ ix.targets := List.mem_of_find?_eq_some hf
  have hown : owner.contains p = true := by simpa using List.find?_some hf
  rw [targetFor, hf, Option.getD_some]
  by_contra hne
  exact List.Pairwise.forall h hmem ht hne p ⟨hown, hp⟩

/-- A file no target has gets a target of its own. -/
theorem targetFor_of_forall_not_contains (h : ∀ t ∈ ix.targets, t.contains p = false) :
    ix.targetFor p = Target.singleFile p := by
  have hf : ix.find? p = none := List.find?_eq_none.mpr fun t ht => by simp [h t ht]
  rw [targetFor, hf, Option.getD_none]

end TargetIndex

open TargetIndex

/-- Along every run of calls on a target index, the targets keep their number, order, names,
directories and compiler arguments; registering a file some target has changes nothing and
answers with that target's name; and when no two targets share a source at the start, none do
after any run, so every file has at most one owner and the lookup gives it. A file no target has
gets a target of its own. -/
theorem index_calls_keep_targets_and_unique_owners (ix : TargetIndex) (calls : List Call) :
    (ix.run calls).targets.map Target.header = ix.targets.map Target.header ∧
    (∀ (jx : TargetIndex) (p : Path), (∃ t ∈ jx.targets, t.contains p = true) →
      jx.sourceCreated p = (jx, some (jx.targetFor p).name)) ∧
    (ix.SourcesDisjoint → (ix.run calls).SourcesDisjoint ∧
      ∀ p, (ix.run calls).targets.countP (·.contains p) ≤ 1 ∧
        ∀ t ∈ (ix.run calls).targets, t.contains p = true → (ix.run calls).targetFor p = t) ∧
    ∀ p, (∀ t ∈ (ix.run calls).targets, t.contains p = false) →
      (ix.run calls).targetFor p = Target.singleFile p := by
  refine ⟨run_headers ix calls, fun jx p ⟨t, ht, hp⟩ => sourceCreated_of_contains ht hp,
    fun h => ?_, fun p hp => targetFor_of_forall_not_contains hp⟩
  have hrun := h.run calls
  exact ⟨hrun, fun p => ⟨hrun.countP_contains_le_one p, fun t ht hp => hrun.targetFor_eq ht hp⟩⟩

/-- A lone target of one file: registering the file again changes nothing and the lookup gives
the target, and once the file is deleted the lookup gives it a target of its own. -/
theorem lone_target_owns_its_file_until_deleted :
    (⟨[Target.singleFile ⟨"/ws/main.swift"⟩]⟩ : TargetIndex).SourcesDisjoint ∧
    (⟨[Target.singleFile ⟨"/ws/main.swift"⟩]⟩ : TargetIndex).sourceCreated ⟨"/ws/main.swift"⟩ =
      (⟨[Target.singleFile ⟨"/ws/main.swift"⟩]⟩,
        some ((⟨[Target.singleFile ⟨"/ws/main.swift"⟩]⟩ : TargetIndex).targetFor
          ⟨"/ws/main.swift"⟩).name) ∧
    ((⟨[Target.singleFile ⟨"/ws/main.swift"⟩]⟩ : TargetIndex).run
      [.created ⟨"/ws/main.swift"⟩]).targetFor ⟨"/ws/main.swift"⟩ =
        Target.singleFile ⟨"/ws/main.swift"⟩ ∧
    ((⟨[Target.singleFile ⟨"/ws/main.swift"⟩]⟩ : TargetIndex).run
      [.created ⟨"/ws/main.swift"⟩, .deleted ⟨"/ws/main.swift"⟩]).targetFor ⟨"/ws/main.swift"⟩ =
        Target.singleFile ⟨"/ws/main.swift"⟩ := by
  have hdisj : (⟨[Target.singleFile ⟨"/ws/main.swift"⟩]⟩ : TargetIndex).SourcesDisjoint :=
    List.pairwise_singleton _ _
  have hhas : (Target.singleFile ⟨"/ws/main.swift"⟩).contains ⟨"/ws/main.swift"⟩ = true := by
    simp [Target.singleFile, Target.contains, SourceSet.contains, SourceSet.insert,
      SourceSet.insertSorted, SourceSet.empty]
  have hmem : Target.singleFile ⟨"/ws/main.swift"⟩ ∈
      (⟨[Target.singleFile ⟨"/ws/main.swift"⟩]⟩ : TargetIndex).targets := List.mem_cons_self
  have hkeep := sourceCreated_of_contains hmem hhas
  have h := index_calls_keep_targets_and_unique_owners
    ⟨[Target.singleFile ⟨"/ws/main.swift"⟩]⟩ [.created ⟨"/ws/main.swift"⟩]
  have h' := index_calls_keep_targets_and_unique_owners
    ⟨[Target.singleFile ⟨"/ws/main.swift"⟩]⟩ [.created ⟨"/ws/main.swift"⟩, .deleted ⟨"/ws/main.swift"⟩]
  refine ⟨hdisj, h.2.1 _ _ ⟨_, hmem, hhas⟩,
    ((h.2.2.1 hdisj).2 _).2 _ (by simp [run, call, hkeep]) hhas, h'.2.2.2 _ ?_⟩
  simp [run, call, hkeep, sourceDeleted, Target.contains]

end SwiftDevEnv
