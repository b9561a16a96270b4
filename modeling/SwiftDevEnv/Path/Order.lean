import SwiftDevEnv.Path

/-!
# The path order

Paths are ordered component by component, and components by their kind and then by the bytes
of their names. The order is oriented (comparing the other way round swaps the answer) and
transitive, and two paths compare equal exactly when their components are equal, so a list of
paths kept in strictly ascending order holds no two paths naming the same place.
-/

namespace SwiftDevEnv

namespace Component

/-- Components compare equal exactly when they are equal. -/
theorem compare_eq_iff {a b : Component} : a.compare b = .eq ↔ a = b := by
  cases a <;> cases b <;> simp [compare, rank]

/-- Components are ordered by kind and then by text: only names share a kind and differ in
their text. -/
theorem compare_eq_compareLex :
    Component.compare = compareLex (compareOn rank) (compareOn text) := by
  funext a b
  cases a <;> cases b <;> rfl

instance : Std.TransCmp Component.compare :=
  compare_eq_compareLex ▸
    inferInstanceAs (Std.TransCmp (compareLex (compareOn rank) (compareOn text)))

end Component

namespace Path

/-- Component lists are compared lexicographically. -/
theorem compareComponents_eq_compareLex : compareComponents = List.compareLex Component.compare := by
  funext as bs
  induction as generalizing bs with
  | nil => cases bs <;> rfl
  | cons a as ih =>
    cases bs with
    | nil => rfl
    | cons b bs =>
      simp only [compareComponents, List.compareLex, ih]
      cases a.compare b <;> rfl

instance : Std.TransCmp compareComponents :=
  compareComponents_eq_compareLex ▸ List.instTransCmpCompareLex

/-- Component lists compare equal exactly when they are equal. -/
theorem compareComponents_eq_iff {as bs : List Component} :
    compareComponents as bs = .eq ↔ as = bs := by
  induction as generalizing bs with
  | nil => cases bs <;> simp [compareComponents]
  | cons a as ih =>
    cases bs with
    | nil => simp [compareComponents]
    | cons b bs =>
      by_cases hab : a = b
      · simp [compareComponents, hab, Component.compare_eq_iff.mpr rfl, ih]
      · have hne : a.compare b ≠ .eq := mt Component.compare_eq_iff.mp hab
        cases h : a.compare b <;> simp_all [compareComponents]

instance : Std.TransCmp Path.compare where
  eq_swap {p q} := @Std.OrientedCmp.eq_swap _ compareComponents _ p.components q.components
  isLE_trans {p q r} :=
    @Std.TransCmp.isLE_trans _ compareComponents _ p.components q.components r.components

/-- No path is below itself. -/
theorem compare_self_ne_lt (p : Path) : p.compare p ≠ .lt := by
  simp [Std.ReflCmp.compare_self]

/-- Paths compare equal exactly when their components are equal. -/
theorem compare_eq_iff {p q : Path} : p.compare q = .eq ↔ p.components = q.components :=
  compareComponents_eq_iff

/-- A path equal to one below a third is below it too. -/
theorem compare_lt_of_eq_of_lt {p q r : Path} (hpq : p.compare q = .eq) (hqr : q.compare r = .lt) :
    p.compare r = .lt := by
  have hcomp := compare_eq_iff.mp hpq
  simpa only [compare, hcomp] using hqr

end Path

end SwiftDevEnv
