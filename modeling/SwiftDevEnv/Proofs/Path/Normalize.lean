import Mathlib
import SwiftDevEnv.Path

/-!
# Lexical normalisation of paths

A path's components are an optional root, a leading `.`, and then its steps: one for every part
between slashes that is neither empty nor `.`, a name or `..`. Joining a relative path to a base
appends its steps to the base's, whatever slashes stand at the seam; an absolute path replaces
the base. Normalisation joins, then folds the steps over a stack of names, where `..` pops a name
if there is one and does nothing at the root or at the start of a relative result.

The result is written back from the stack: an optional root followed only by names, each
non-empty, neither `.` nor `..` and without a slash, so reading it back gives the same steps.
From these two facts follow the laws: normalisation composes with joining, every absolute
result is a fixed point, and a `..` on the root or on an empty relative result is dropped.
-/

namespace SwiftDevEnv

namespace Path

/-- The path of a list of names, from the root or not. -/
def ofNames (absolute : Bool) (names : List String) : Path :=
  if absolute then ⟨"/" ++ "/".intercalate names⟩ else ⟨"/".intercalate names⟩

/-- The components after the root or the leading `.`. -/
def steps (p : Path) : List Component := p.parts.filterMap Component.ofPart

/-- A name normalisation can keep: non-empty, neither `.` nor `..`, and without a slash. -/
def IsName (n : String) : Prop := n ≠ "" ∧ n ≠ "." ∧ n ≠ ".." ∧ '/' ∉ n.toList

/-! ## Parts and steps -/

/-- No part between separators holds the separator. -/
theorem not_mem_of_mem_splitOn {a : Char} {xs l : List Char} (h : l ∈ xs.splitOn a) : a ∉ l := by
  induction xs generalizing l with
  | nil => simp_all
  | cons x xs ih =>
    rw [List.splitOn_cons_eq_if_modifyHead] at h
    split at h
    · rcases List.mem_cons.mp h with rfl | h
      · simp
      · exact ih h
    · -- `x` is not the separator and starts the first part
      rename_i hx
      obtain ⟨first, rest, hsplit⟩ := List.exists_cons_of_ne_nil (List.splitOn_ne_nil a xs)
      rw [hsplit, List.modifyHead_cons] at h
      rcases List.mem_cons.mp h with rfl | h
      · have hfirst : a ∉ first := ih (by rw [hsplit]; exact List.mem_cons_self)
        simp only [List.mem_cons, not_or]
        exact ⟨fun hax => hx (by simp [hax]), hfirst⟩
      · exact ih (by rw [hsplit]; exact List.mem_cons_of_mem _ h)

theorem ofPart_empty : Component.ofPart "" = none := rfl

/-- A name stands for itself. -/
theorem ofPart_of_isName {n : String} (h : IsName n) : Component.ofPart n = some (.normal n) := by
  obtain ⟨h₁, h₂, h₃, -⟩ := h
  simp [Component.ofPart, h₁, h₂, h₃]

/-- Every step is `..` or a name. -/
theorem steps_parent_or_name (p : Path) :
    ∀ c ∈ p.steps, c = .parent ∨ ∃ n, c = .normal n ∧ IsName n := by
  intro c hc
  obtain ⟨s, hs, hsc⟩ := List.mem_filterMap.mp hc
  obtain ⟨l, hl, rfl⟩ := List.mem_map.mp hs
  have hslash : '/' ∉ (String.ofList l).toList := by
    simpa using not_mem_of_mem_splitOn hl
  unfold Component.ofPart at hsc
  split_ifs at hsc with hdot hdots
  · exact .inl (Option.some.inj hsc).symm
  · simp only [Bool.or_eq_true, decide_eq_true_eq, not_or] at hdot
    exact .inr ⟨_, (Option.some.inj hsc).symm, hdot.1, hdot.2, hdots, hslash⟩

/-- The components of a path: its root or leading `.`, then its steps. -/
theorem components_eq (p : Path) :
    p.components = (if p.isAbsolute then [.root]
      else if p.text = "." || p.text.startsWith "./" then [.current] else []) ++ p.steps := by
  unfold components
  split_ifs <;> rfl

/-- Normalisation passes over the root and a leading `.`. -/
theorem foldl_resolveStep_components (acc : List String) (p : Path) :
    p.components.foldl resolveStep acc = p.steps.foldl resolveStep acc := by
  rw [components_eq]
  split_ifs <;> rfl

/-! ## Absolute paths and joining -/

theorem isAbsolute_iff {p : Path} : p.isAbsolute = true ↔ ∃ r, p.text.toList = '/' :: r := by
  rw [isAbsolute, String.startsWith_string_iff, show "/".toList = ['/'] from rfl]
  constructor
  · rintro ⟨r, hr⟩
    exact ⟨r, hr.symm⟩
  · rintro ⟨r, hr⟩
    exact ⟨r, hr.symm⟩

theorem isAbsolute_of_text_eq_empty {p : Path} (h : p.text = "") : p.isAbsolute = false := by
  simp [isAbsolute, h]

/-- A text that starts with a non-empty base is absolute when the base is. -/
theorem isAbsolute_append {s : String} (hs : s ≠ "") (t : String) :
    (⟨s ++ t⟩ : Path).isAbsolute = (⟨s⟩ : Path).isAbsolute := by
  obtain ⟨x, b, hb⟩ := List.exists_cons_of_ne_nil (mt String.toList_eq_nil_iff.mp hs)
  rw [Bool.eq_iff_iff, isAbsolute_iff, isAbsolute_iff, String.toList_append, hb]
  simp

/-- A joined path is absolute when the base or the joined path is. -/
theorem isAbsolute_join (base q : Path) :
    (base.join q).isAbsolute = (base.isAbsolute || q.isAbsolute) := by
  unfold join
  cases hq : q.isAbsolute with
  | true => simp [hq]
  | false =>
    simp only [Bool.false_eq_true, if_false, Bool.or_false]
    split_ifs with hempty hslash
    · rw [hq, isAbsolute_of_text_eq_empty hempty]
    · exact isAbsolute_append hempty q.text
    · rw [String.append_assoc]
      exact isAbsolute_append hempty _

theorem join_of_isAbsolute (base : Path) {q : Path} (hq : q.isAbsolute = true) : base.join q = q := by
  simp [join, hq]

/-- An empty text has no steps. -/
theorem steps_of_text_eq_empty {p : Path} (h : p.text = "") : p.steps = [] := by
  simp [steps, parts, h, ofPart_empty]

/-- Two texts put together with a slash between them have the steps of both. -/
theorem steps_append_slash (s t : String) :
    (⟨s ++ "/" ++ t⟩ : Path).steps = (⟨s⟩ : Path).steps ++ (⟨t⟩ : Path).steps := by
  simp only [steps, parts, String.toList_append, List.append_assoc,
    show "/".toList = ['/'] from rfl, List.singleton_append, List.splitOn_append_cons_self,
    List.map_append, List.filterMap_append]

/-- A text ending in a slash and another text put together have the steps of both. The slash that
ends the first text separates its parts from those of the second. -/
theorem steps_append_of_endsWith {s : String} (hs : s.endsWith "/" = true) (t : String) :
    (⟨s ++ t⟩ : Path).steps = (⟨s⟩ : Path).steps ++ (⟨t⟩ : Path).steps := by
  rw [← String.endsWith_toSlice, String.Slice.endsWith_string_iff] at hs
  obtain ⟨b, hb⟩ := hs
  have hs' : s.toList = b ++ ['/'] := by simpa using hb.symm
  simp only [steps, parts, String.toList_append, hs', List.append_assoc, List.singleton_append,
    List.splitOn_append_cons_self, List.map_append, List.filterMap_append]
  simp [ofPart_empty]

/-- Joining a relative path appends its steps to the base's. -/
theorem steps_join (base : Path) {q : Path} (hq : q.isAbsolute = false) :
    (base.join q).steps = base.steps ++ q.steps := by
  unfold join
  rw [if_neg (by simp [hq])]
  split_ifs with hempty hslash
  · rw [steps_of_text_eq_empty hempty, List.nil_append]
  · exact steps_append_of_endsWith hslash q.text
  · exact steps_append_slash base.text q.text

/-- Joining `q` to the base joined with `p` gives the steps of joining `p`, then those of `q`, when
`q` is relative. An absolute `p` replaces the base, and `p` joined with `q` stays absolute. -/
theorem steps_join_join (base p : Path) {q : Path} (hq : q.isAbsolute = false) :
    (base.join (p.join q)).steps = (base.join p).steps ++ q.steps := by
  cases hp : p.isAbsolute with
  | true =>
    have hpq : (p.join q).isAbsolute = true := by simp [isAbsolute_join, hp]
    rw [join_of_isAbsolute base hpq, join_of_isAbsolute base hp, steps_join p hq]
  | false =>
    have hpq : (p.join q).isAbsolute = false := by simp [isAbsolute_join, hp, hq]
    rw [steps_join base hpq, steps_join p hq, steps_join base hp, List.append_assoc]

/-! ## Normalisation -/

/-- Normalisation joins, folds the joined path's steps over the stack of names, and writes the
names back, from the root if the joined path is absolute. -/
theorem normalize_eq (base path : Path) :
    normalize base path = ofNames (base.join path).isAbsolute
      ((base.join path).steps.foldl resolveStep []).reverse := by
  have hjoined : (if path.isAbsolute then path else base.join path) = base.join path := by
    split_ifs with h
    · exact (join_of_isAbsolute base h).symm
    · rfl
  simp only [normalize, hjoined, resolveNames, foldl_resolveStep_components]
  rfl

/-- The stack keeps names only. -/
theorem isName_of_mem_foldl_resolveStep {cs : List Component} {acc : List String}
    (hcs : ∀ c ∈ cs, c = .parent ∨ ∃ n, c = .normal n ∧ IsName n) (hacc : ∀ n ∈ acc, IsName n) :
    ∀ n ∈ cs.foldl resolveStep acc, IsName n := by
  induction cs generalizing acc with
  | nil => exact hacc
  | cons c cs ih =>
    refine ih (fun c hc => hcs c (List.mem_cons_of_mem _ hc)) ?_
    rcases hcs c List.mem_cons_self with rfl | ⟨n, rfl, hn⟩
    · exact fun m hm => hacc m (List.mem_of_mem_drop hm)
    · intro m hm
      rcases List.mem_cons.mp hm with rfl | hm
      · exact hn
      · exact hacc m hm

/-- Names written one after another are pushed on the stack in turn. -/
theorem foldl_resolveStep_normal (names acc : List String) :
    (names.map .normal).foldl resolveStep acc = names.reverse ++ acc := by
  induction names generalizing acc with
  | nil => rfl
  | cons n names ih => simp [resolveStep, ih]

/-! ## Names written back -/

section OfNames

variable {names : List String} (h : ∀ n ∈ names, IsName n)
include h

/-- Names with slashes between them split back into the names. -/
theorem parts_intercalate (hne : names ≠ []) : (⟨"/".intercalate names⟩ : Path).parts = names := by
  have hslash : ∀ l ∈ names.map String.toList, '/' ∉ l := by
    simp only [List.mem_map]
    rintro l ⟨n, hn, rfl⟩
    exact (h n hn).2.2.2
  simp only [parts, String.toList_intercalate, show "/".toList = ['/'] from rfl,
    List.splitOn_intercalate '/' hslash (by simpa using hne), List.map_map]
  simp

/-- Names with slashes between them have exactly these names as steps. -/
theorem steps_intercalate : (⟨"/".intercalate names⟩ : Path).steps = names.map .normal := by
  rcases eq_or_ne names [] with rfl | hne
  · rfl
  · rw [steps, parts_intercalate h hne, List.filterMap_eq_map_iff_forall_eq_some]
    exact fun n hn => ofPart_of_isName (h n hn)

/-- Names written back have exactly these names as steps, from the root or not. The leading slash
adds an empty first part, which is no step. -/
theorem steps_ofNames (absolute : Bool) : (ofNames absolute names).steps = names.map .normal := by
  cases absolute with
  | false => exact steps_intercalate h
  | true =>
    have hroot : (ofNames true names) = ⟨"" ++ "/" ++ "/".intercalate names⟩ := by
      simp [ofNames]
    rw [hroot, steps_append_slash, steps_of_text_eq_empty rfl, List.nil_append, steps_intercalate h]

/-- Names written back are absolute exactly when written from the root. -/
theorem isAbsolute_ofNames (absolute : Bool) : (ofNames absolute names).isAbsolute = absolute := by
  cases absolute with
  | true => simp [ofNames, isAbsolute]
  | false =>
    rw [Bool.eq_false_iff, ne_eq, isAbsolute_iff]
    rintro ⟨r, hr⟩
    rcases eq_or_ne names [] with rfl | hne
    · simp [ofNames] at hr
    · -- the first part would be empty, but it is the first name
      have hparts := parts_intercalate h hne
      simp only [parts, ofNames, Bool.false_eq_true, if_false] at hparts hr
      rw [hr, List.splitOn_cons_eq_if_modifyHead, if_pos (by simp)] at hparts
      obtain ⟨n, ns, rfl⟩ := List.exists_cons_of_ne_nil hne
      simp only [List.map_cons, List.cons.injEq] at hparts
      exact (h n List.mem_cons_self).1 (by simp [← hparts.1])

/-- Names written back without a root neither are `.` nor start with `./`. -/
theorem not_dot_ofNames :
    ((ofNames false names).text = "." || (ofNames false names).text.startsWith "./") = false := by
  rcases eq_or_ne names [] with rfl | hne
  · rfl
  · rw [Bool.eq_false_iff, ne_eq, Bool.or_eq_true, decide_eq_true_eq, String.startsWith_string_iff]
    intro hdot
    have hfirst : ∃ rest, (ofNames false names).text.toList.splitOn '/' = ['.'] :: rest := by
      rcases hdot with hdot | ⟨r, hr⟩
      · exact ⟨[], by rw [hdot]; decide⟩
      · refine ⟨r.splitOn '/', ?_⟩
        rw [← hr]
        rfl
    obtain ⟨rest, hrest⟩ := hfirst
    have hparts := parts_intercalate h hne
    simp only [parts, ofNames, Bool.false_eq_true, if_false] at hparts hrest
    rw [hrest] at hparts
    obtain ⟨n, ns, rfl⟩ := List.exists_cons_of_ne_nil hne
    simp only [List.map_cons, List.cons.injEq] at hparts
    exact (h n List.mem_cons_self).2.1 (by rw [← hparts.1])

/-- Names written back have an optional root and then exactly these names as components. -/
theorem components_ofNames (absolute : Bool) :
    (ofNames absolute names).components = (if absolute then [.root] else []) ++ names.map .normal := by
  rw [components_eq, isAbsolute_ofNames h, steps_ofNames h]
  cases absolute with
  | true => rfl
  | false => rw [not_dot_ofNames h]; rfl

end OfNames

/-! ## The laws of normalisation -/

variable (base path : Path)

/-- The names of the normalised path: the stack its joined path leaves, first name first. -/
theorem isName_of_mem_resolved :
    ∀ n ∈ ((base.join path).steps.foldl resolveStep []).reverse, IsName n := fun n hn =>
  isName_of_mem_foldl_resolveStep (steps_parent_or_name _) (by simp) n (List.mem_reverse.mp hn)

/-- A normalised path is absolute exactly when the joined path is. -/
theorem isAbsolute_normalize : (normalize base path).isAbsolute = (base.join path).isAbsolute := by
  rw [normalize_eq, isAbsolute_ofNames (isName_of_mem_resolved base path)]

/-- A normalised path leaves the same stack as the joined path. -/
theorem foldl_resolveStep_normalize :
    (normalize base path).steps.foldl resolveStep [] = (base.join path).steps.foldl resolveStep [] := by
  rw [normalize_eq, steps_ofNames (isName_of_mem_resolved base path), foldl_resolveStep_normal,
    List.reverse_reverse, List.append_nil]

/-- A normalised path is an optional root followed only by names. -/
theorem components_normalize :
    (normalize base path).components = (if (base.isAbsolute || path.isAbsolute) then [.root] else []) ++
      (((base.join path).steps.foldl resolveStep []).reverse).map .normal := by
  rw [normalize_eq, components_ofNames (isName_of_mem_resolved base path), isAbsolute_join]

/-- Normalising a path joined to another is normalising the second against the normalised first.
Both sides fold the steps of `q` over the stack that `p` joined to the base leaves. -/
theorem normalize_join (p q : Path) : normalize base (p.join q) = normalize (normalize base p) q := by
  cases hq : q.isAbsolute with
  | true =>
    rw [join_of_isAbsolute p hq, normalize_eq, normalize_eq, join_of_isAbsolute base hq,
      join_of_isAbsolute _ hq]
  | false =>
    rw [normalize_eq, normalize_eq (normalize base p) q, steps_join_join base p hq, steps_join _ hq,
      List.foldl_append, List.foldl_append, foldl_resolveStep_normalize]
    simp only [isAbsolute_join, isAbsolute_normalize, hq, Bool.or_false]

/-- An absolute normalised path is normalised to itself against any base. -/
theorem normalize_normalize_of_isAbsolute (b : Path) (h : (normalize base path).isAbsolute = true) :
    normalize b (normalize base path) = normalize base path := by
  rw [normalize_eq b, join_of_isAbsolute b h, foldl_resolveStep_normalize, h]
  conv_rhs => rw [normalize_eq]
  rw [← isAbsolute_normalize, h]

theorem isAbsolute_parent : (⟨".."⟩ : Path).isAbsolute = false := by decide +kernel

theorem steps_parent : (⟨".."⟩ : Path).steps = [.parent] := by decide +kernel

/-- A `..` after a path normalised to the root, or to the empty relative path, is dropped. -/
theorem normalize_join_parent_of_no_names (h : ∀ c ∈ (normalize base path).components, c = .root) :
    normalize base (path.join ⟨".."⟩) = normalize base path := by
  have hstack : (base.join path).steps.foldl resolveStep [] = [] := by
    rw [components_normalize] at h
    rw [← List.reverse_eq_nil_iff]
    by_contra hne
    obtain ⟨n, ns, hns⟩ := List.exists_cons_of_ne_nil hne
    have hroot := h (.normal n) (List.mem_append_right _ (by simp [hns]))
    cases hroot
  rw [normalize_join, normalize_eq (normalize base path), steps_join _ isAbsolute_parent,
    List.foldl_append, foldl_resolveStep_normalize, hstack, steps_parent, isAbsolute_join,
    isAbsolute_parent, Bool.or_false, isAbsolute_normalize]
  conv_rhs => rw [normalize_eq, hstack]
  rfl

end Path

end SwiftDevEnv
