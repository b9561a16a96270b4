import Mathlib
import SwiftDevEnv.Proofs.Toml.DistinctKeys

/-!
# Laying one tree over another, key by key

`Node.overlay a b` merges two tables key by key, and anything else in `b` replaces what `a` has.
Read at a path of keys, the result is `b`'s value wherever `b` puts something other than a table
at that path or above it; `a`'s value wherever `b`'s tables leave the path out; and the two laid
over each other wherever both have a value, so tables merge at every depth. The layer must hold
each key once per table, as every tree read from a text does (`parse_keysDistinct`).
-/

namespace SwiftDevEnv.Toml

/-- The value of the first entry of a key. -/
def lookup (name : String) (entries : List (Key × Node)) : Option Node :=
  (entries.find? (·.1.name == name)).map (·.2)

@[simp] theorem lookup_nil (name : String) : lookup name [] = none := rfl

theorem lookup_cons (name : String) (k : Key) (n : Node) (rest : List (Key × Node)) :
    lookup name ((k, n) :: rest) = if k.name = name then some n else lookup name rest := by
  by_cases h : k.name = name <;> simp [lookup, h]

theorem lookup_eq_none_of_not_mem {name : String} {entries : List (Key × Node)}
    (h : name ∉ entries.map (·.1.name)) : lookup name entries = none := by
  simp only [lookup, Option.map_eq_none_iff, List.find?_eq_none, beq_iff_eq]
  exact fun e he hname => h (List.mem_map.mpr ⟨e, he, hname⟩)

theorem mem_of_lookup_eq_some {name : String} {entries : List (Key × Node)} {n : Node}
    (h : lookup name entries = some n) : ∃ k, (k, n) ∈ entries ∧ k.name = name := by
  obtain ⟨e, he, rfl⟩ := Option.map_eq_some_iff.mp h
  exact ⟨e.1, List.mem_of_find?_eq_some he, by simpa using List.find?_some he⟩

/-! ## Setting one key -/

theorem lookup_setSorted_self (k : Key) (n : Node) (entries : List (Key × Node)) :
    lookup k.name (setSorted k n entries) = some n := by
  induction entries with
  | nil => simp [setSorted, lookup_cons]
  | cons e rest ih =>
    obtain ⟨k', n'⟩ := e
    simp only [setSorted]
    split
    · simp [lookup_cons]
    split
    · rename_i heq
      simp [lookup_cons, heq]
    · rename_i hlt hne
      rw [lookup_cons, if_neg (Ne.symm hne), ih]

theorem lookup_setSorted_of_ne {name : String} (k : Key) (n : Node) (entries : List (Key × Node))
    (hne : name ≠ k.name) : lookup name (setSorted k n entries) = lookup name entries := by
  induction entries with
  | nil => simp [setSorted, lookup_cons, Ne.symm hne]
  | cons e rest ih =>
    obtain ⟨k', n'⟩ := e
    simp only [setSorted]
    split
    · simp [lookup_cons, Ne.symm hne]
    split
    · rename_i heq
      simp only [lookup_cons, ← heq, if_neg (Ne.symm hne)]
    · simp only [lookup_cons, ih]

/-! ## Merging entries -/

/-- A value laid over what a key held before, if anything. -/
def overlayOver : Option Node → Node → Node
  | some old, n => old.overlay n
  | none, n => n

/-- The first entry of a layer is laid over the base's value of its key, if any. -/
theorem overlayEntries_cons (base : List (Key × Node)) (k : Key) (n : Node)
    (rest : List (Key × Node)) :
    overlayEntries base ((k, n) :: rest) =
      overlayEntries (setSorted k (overlayOver (lookup k.name base) n) base) rest := by
  simp only [overlayEntries, lookup]
  cases base.find? (·.1.name == k.name) <;> rfl

/-- After laying the entries `top` over `base`, a key that `top` holds has `top`'s value laid over
`base`'s, and any other key keeps `base`'s value. -/
theorem lookup_overlayEntries (base top : List (Key × Node))
    (hnodup : (top.map (·.1.name)).Nodup) (name : String) :
    lookup name (overlayEntries base top) =
      match lookup name top with
      | some t => some (overlayOver (lookup name base) t)
      | none => lookup name base := by
  induction top generalizing base with
  | nil => simp [overlayEntries]
  | cons e rest ih =>
    obtain ⟨k, n⟩ := e
    obtain ⟨hk, hrest⟩ := List.nodup_cons.mp hnodup
    rw [overlayEntries_cons, ih _ hrest, lookup_cons]
    by_cases hname : k.name = name
    · subst hname
      have hnone : lookup k.name rest = none := lookup_eq_none_of_not_mem hk
      simp [hnone, lookup_setSorted_self]
    · simp only [if_neg hname, lookup_setSorted_of_ne k _ base (Ne.symm hname)]

/-! ## Sorted entries -/

/-- Entries in strictly ascending order of their keys' names, as a map ordered by key holds them. -/
def Ascending (entries : List (Key × Node)) : Prop :=
  (entries.map (·.1.name)).Pairwise (· < ·)

theorem Ascending.nodup {entries : List (Key × Node)} (h : Ascending entries) :
    (entries.map (·.1.name)).Nodup :=
  h.imp ne_of_lt

theorem mem_names_setSorted {k : Key} {n : Node} {entries : List (Key × Node)} {name : String}
    (h : name ∈ (setSorted k n entries).map (·.1.name)) :
    name = k.name ∨ name ∈ entries.map (·.1.name) := by
  induction entries with
  | nil => simpa [setSorted] using h
  | cons e rest ih =>
    obtain ⟨k', n'⟩ := e
    simp only [setSorted] at h
    split at h
    · simpa using h
    split at h
    · simp_all
    · simp only [List.map_cons, List.mem_cons] at h ⊢
      rcases h with h | h
      · exact .inr (.inl h)
      · rcases ih h with h | h
        · exact .inl h
        · exact .inr (.inr h)

/-- Setting a key keeps entries ascending. -/
theorem ascending_setSorted {entries : List (Key × Node)} (h : Ascending entries) (k : Key)
    (n : Node) : Ascending (setSorted k n entries) := by
  induction entries with
  | nil => simp [Ascending, setSorted]
  | cons e rest ih =>
    obtain ⟨k', n'⟩ := e
    simp only [Ascending, List.map_cons, List.pairwise_cons] at h
    obtain ⟨hlt, hrest⟩ := h
    simp only [setSorted]
    split
    · -- the key goes first
      rename_i hk
      simp only [Ascending, List.map_cons, List.pairwise_cons, List.mem_cons]
      refine ⟨?_, hlt, hrest⟩
      rintro a (rfl | ha)
      · exact hk
      · exact lt_trans hk (hlt a ha)
    split
    · -- the key replaces the first entry's value
      simp only [Ascending, List.map_cons, List.pairwise_cons]
      exact ⟨hlt, hrest⟩
    · -- the key goes further in
      rename_i hnlt hne
      have hgt : k'.name < k.name := lt_of_le_of_ne (not_lt.mp hnlt) (Ne.symm hne)
      simp only [Ascending, List.map_cons, List.pairwise_cons]
      refine ⟨fun a ha => ?_, ih hrest⟩
      rcases mem_names_setSorted ha with rfl | ha
      · exact hgt
      · exact hlt a ha

/-- Laying a layer over ascending entries keeps them ascending. -/
theorem ascending_overlayEntries {base : List (Key × Node)} (h : Ascending base)
    (top : List (Key × Node)) : Ascending (overlayEntries base top) := by
  induction top generalizing base with
  | nil => exact h
  | cons e rest ih =>
    obtain ⟨k, n⟩ := e
    rw [overlayEntries_cons]
    exact ih (ascending_setSorted h _ _)

/-- Sorting entries of distinct keys makes them ascending. -/
theorem ascending_sortEntries {entries : List (Key × Node)}
    (h : (entries.map (·.1.name)).Nodup) : Ascending (sortEntries entries) := by
  have hsorted := @List.pairwise_mergeSort _ (fun a b : Key × Node => decide (a.1.name ≤ b.1.name))
    (fun a b c hab hbc => by simp only [decide_eq_true_eq] at hab hbc ⊢; exact le_trans hab hbc)
    (fun a b => by simp only [Bool.or_eq_true, decide_eq_true_eq]; exact le_total _ _) entries
  have hnodup : ((sortEntries entries).map (·.1.name)).Nodup :=
    ((List.mergeSort_perm _ _).map _).nodup_iff.mpr h
  unfold Ascending
  rw [List.pairwise_map]
  exact (hsorted.and (List.pairwise_map.mp hnodup)).imp fun ⟨hle, hne⟩ =>
    lt_of_le_of_ne (by simpa using hle) hne

/-- In entries of distinct keys, a key's value is the value of the one entry of that key. -/
theorem lookup_eq_some_iff {entries : List (Key × Node)} (h : (entries.map (·.1.name)).Nodup)
    {name : String} {v : Node} :
    lookup name entries = some v ↔ ∃ k, (k, v) ∈ entries ∧ k.name = name := by
  refine ⟨mem_of_lookup_eq_some, ?_⟩
  rintro ⟨k, hmem, rfl⟩
  obtain ⟨e, he⟩ : ∃ e, entries.find? (·.1.name == k.name) = some e :=
    Option.isSome_iff_exists.mp (List.find?_isSome.mpr ⟨(k, v), hmem, by simp⟩)
  have heq : e = (k, v) :=
    List.inj_on_of_nodup_map h (List.mem_of_find?_eq_some he) hmem
      (by simpa using List.find?_some he)
  simp [lookup, he, heq]

/-- Reordering entries of distinct keys changes no key's value. -/
theorem lookup_perm {entries entries' : List (Key × Node)} (hp : entries.Perm entries')
    (h : (entries.map (·.1.name)).Nodup) (name : String) :
    lookup name entries = lookup name entries' := by
  have h' : (entries'.map (·.1.name)).Nodup := (hp.map _).nodup_iff.mp h
  apply Option.ext
  intro v
  rw [lookup_eq_some_iff h, lookup_eq_some_iff h']
  simp only [hp.mem_iff]

theorem lookup_sortEntries {entries : List (Key × Node)} (h : (entries.map (·.1.name)).Nodup)
    (name : String) : lookup name (sortEntries entries) = lookup name entries :=
  (lookup_perm (List.mergeSort_perm _ _) (((List.mergeSort_perm _ _).map _).nodup_iff.mpr h)
    name)

/-! ## Reading at a path -/

/-- The node at a path of keys, each key looked up in the table reached so far. -/
def Node.get : Node → List String → Option Node
  | n, [] => some n
  | .table entries _ _, k :: ks => (lookup k entries).bind (·.get ks)
  | _, _ :: _ => none

/-- Whether a node is a table. -/
def Node.isTable : Node → Bool
  | .table .. => true
  | _ => false

theorem Node.overlay_of_not_isTable (a b : Node) (hb : b.isTable = false) : a.overlay b = b := by
  unfold Node.overlay
  split
  · simp [Node.isTable] at hb
  · rfl

theorem Node.overlay_of_not_isTable_left (a b : Node) (ha : a.isTable = false) :
    a.overlay b = b := by
  unfold Node.overlay
  split
  · simp [Node.isTable] at ha
  · rfl

theorem Node.get_cons_of_not_isTable (n : Node) (hn : n.isTable = false) (k : String)
    (ks : List String) : n.get (k :: ks) = none := by
  cases n <;> simp_all [Node.get, Node.isTable]

/-- A node that `isTable` is a table of some entries, shape and span. -/
theorem Node.exists_table_of_isTable {n : Node} (hn : n.isTable = true) :
    ∃ entries shape span, n = .table entries shape span := by
  cases n <;> simp_all [Node.isTable]

/-- A node with a value below it is a table. -/
theorem Node.exists_table_of_get_cons {n v : Node} {k : String} {ks : List String}
    (h : n.get (k :: ks) = some v) : ∃ entries shape span, n = .table entries shape span := by
  cases hn : n.isTable
  · simp [Node.get_cons_of_not_isTable n hn] at h
  · exact Node.exists_table_of_isTable hn

/-- One key down: a key the layer's table leaves out is read in the base, and a key it holds is
read in its value laid over the base's. -/
theorem get_overlay_cons (a : Node) (entries : List (Key × Node)) (shape : Shape)
    (span : Option Span) (hnodup : (entries.map (·.1.name)).Nodup) (k : String)
    (ks : List String) :
    (a.overlay (.table entries shape span)).get (k :: ks) =
      match lookup k entries with
      | some t => (overlayOver (a.get [k]) t).get ks
      | none => a.get (k :: ks) := by
  cases ha : a.isTable
  · -- a base that is not a table is replaced
    have hnone : ∀ j js, a.get (j :: js) = none := Node.get_cons_of_not_isTable a ha
    rw [Node.overlay_of_not_isTable_left _ _ ha]
    cases h : lookup k entries <;> simp [Node.get, h, hnone, overlayOver]
  · obtain ⟨aes, ashape, aspan, rfl⟩ := Node.exists_table_of_isTable ha
    simp only [Node.overlay, Node.get, lookup_overlayEntries aes entries hnodup k]
    cases lookup k entries <;> cases lookup k aes <;> simp [overlayOver]

theorem Node.KeysDistinct.of_lookup {entries : List (Key × Node)} {shape : Shape}
    {span : Option Span} (h : (Node.table entries shape span).KeysDistinct) {k : String}
    {t : Node} (ht : lookup k entries = some t) : t.KeysDistinct := by
  obtain ⟨key, hmem, -⟩ := mem_of_lookup_eq_some ht
  exact (Node.KeysDistinct.table_iff.mp h).2 _ hmem

/-- The layer puts something other than a table at the path, or at a path above it. -/
def Node.Sets (b : Node) (ks : List String) : Prop :=
  ∃ p, p <+: ks ∧ ∃ v, b.get p = some v ∧ v.isTable = false

/-- A table sets a path only through a key it holds, whose value sets the rest of the path. -/
theorem Node.sets_table_cons_iff {entries : List (Key × Node)} {shape : Shape}
    {span : Option Span} {k : String} {ks : List String} :
    (Node.table entries shape span).Sets (k :: ks) ↔ ∃ t, lookup k entries = some t ∧ t.Sets ks := by
  constructor
  · rintro ⟨p, hp, v, hv, hvt⟩
    cases p with
    | nil => simp [Node.get] at hv; subst hv; simp [Node.isTable] at hvt
    | cons j p =>
      obtain ⟨rfl, hp'⟩ := List.cons_prefix_cons.mp hp
      cases ht : lookup j entries with
      | none => simp [Node.get, ht] at hv
      | some t =>
        simp only [Node.get, ht, Option.bind_some] at hv
        exact ⟨t, rfl, p, hp', v, hv, hvt⟩
  · rintro ⟨t, ht, p, hp, v, hv, hvt⟩
    exact ⟨k :: p, List.cons_prefix_cons.mpr ⟨rfl, hp⟩, v, by simp [Node.get, ht, hv], hvt⟩

theorem Node.sets_cons {entries : List (Key × Node)} {shape : Shape} {span : Option Span}
    {k : String} {ks : List String} {t : Node} (ht : lookup k entries = some t) :
    (Node.table entries shape span).Sets (k :: ks) ↔ t.Sets ks := by
  simp [Node.sets_table_cons_iff, ht]

/-- Where the layer puts something other than a table at a path or above it, the merged tree
has the layer's value there. -/
theorem get_overlay_of_sets (a b : Node) (hb : b.KeysDistinct) (ks : List String)
    (hsets : b.Sets ks) : (a.overlay b).get ks = b.get ks := by
  induction ks generalizing a b with
  | nil =>
    obtain ⟨p, hp, v, hv, hvt⟩ := hsets
    rw [List.prefix_nil.mp hp] at hv
    cases hv
    rw [Node.overlay_of_not_isTable a _ hvt]
  | cons k ks ih =>
    cases hbt : b.isTable
    · rw [Node.overlay_of_not_isTable a b hbt]
    · obtain ⟨es, shape, span, rfl⟩ := Node.exists_table_of_isTable hbt
      have hnodup := (Node.KeysDistinct.table_iff.mp hb).1
      rw [get_overlay_cons a es shape span hnodup k ks]
      cases ht : lookup k es with
      | none =>
        obtain ⟨t, ht', -⟩ := Node.sets_table_cons_iff.mp hsets
        simp [ht] at ht'
      | some t =>
        have htsets := (Node.sets_cons ht).mp hsets
        have htkeys := hb.of_lookup ht
        simp only [Node.get, ht, Option.bind_some]
        cases a.get [k] with
        | none => rfl
        | some x => exact ih x t htkeys htsets

/-- Where the layer's tables leave a path out, the merged tree has the base's value there. -/
theorem get_overlay_of_get_eq_none (a b : Node) (hb : b.KeysDistinct) (ks : List String)
    (hsets : ¬ b.Sets ks) (hnone : b.get ks = none) : (a.overlay b).get ks = a.get ks := by
  induction ks generalizing a b with
  | nil => simp [Node.get] at hnone
  | cons k ks ih =>
    cases hbt : b.isTable
    · exact absurd ⟨[], List.nil_prefix, b, rfl, hbt⟩ hsets
    · obtain ⟨es, shape, span, rfl⟩ := Node.exists_table_of_isTable hbt
      have hnodup := (Node.KeysDistinct.table_iff.mp hb).1
      rw [get_overlay_cons a es shape span hnodup k ks]
      cases ht : lookup k es with
      | none => rfl
      | some t =>
        have htsets : ¬ t.Sets ks := fun h => hsets ((Node.sets_cons ht).mpr h)
        have htnone : t.get ks = none := by simpa [Node.get, ht] using hnone
        cases ha : a.isTable
        · simp [overlayOver, Node.get_cons_of_not_isTable a ha, htnone]
        · obtain ⟨aes, ashape, aspan, rfl⟩ := Node.exists_table_of_isTable ha
          simp only [Node.get]
          cases lookup k aes with
          | none => simp [overlayOver, htnone]
          | some x => simpa [overlayOver] using ih x t (hb.of_lookup ht) htsets htnone

/-- Where both trees have a value at a path, the merged tree has the layer's value laid over
the base's: tables merge key by key at every depth. -/
theorem get_overlay_of_get_eq_some (a b : Node) (hb : b.KeysDistinct) (ks : List String)
    {x y : Node} (ha : a.get ks = some x) (hy : b.get ks = some y) :
    (a.overlay b).get ks = some (x.overlay y) := by
  induction ks generalizing a b with
  | nil =>
    simp only [Node.get, Option.some.injEq] at ha hy
    subst ha hy
    rfl
  | cons k ks ih =>
    obtain ⟨es, shape, span, rfl⟩ := Node.exists_table_of_get_cons hy
    obtain ⟨aes, ashape, aspan, rfl⟩ := Node.exists_table_of_get_cons ha
    rw [get_overlay_cons _ es shape span (Node.KeysDistinct.table_iff.mp hb).1 k ks]
    simp only [Node.get] at ha hy ⊢
    cases ht : lookup k es with
    | none => simp [ht] at hy
    | some t =>
      cases hx : lookup k aes with
      | none => simp [hx] at ha
      | some x' =>
        simp only [ht, hx, Option.bind_some] at ha hy
        exact ih x' t (hb.of_lookup ht) ha hy

/-- Where only the layer has a value at a path, the merged tree has the layer's value there. -/
theorem get_overlay_of_get_eq_none_left (a b : Node) (hb : b.KeysDistinct) (ks : List String)
    {y : Node} (ha : a.get ks = none) (hy : b.get ks = some y) :
    (a.overlay b).get ks = some y := by
  induction ks generalizing a b with
  | nil => simp [Node.get] at ha
  | cons k ks ih =>
    obtain ⟨es, shape, span, rfl⟩ := Node.exists_table_of_get_cons hy
    rw [get_overlay_cons _ es shape span (Node.KeysDistinct.table_iff.mp hb).1 k ks]
    simp only [Node.get] at hy
    cases ht : lookup k es with
    | none => simp [ht] at hy
    | some t =>
      simp only [ht, Option.bind_some] at hy
      cases hak : a.get [k] with
      | none => exact hy
      | some x =>
        obtain ⟨aes, ashape, aspan, rfl⟩ := Node.exists_table_of_get_cons hak
        have hx : lookup k aes = some x := by simpa [Node.get] using hak
        simp only [Node.get, hx, Option.bind_some] at ha
        exact ih x t (hb.of_lookup ht) ha hy

end SwiftDevEnv.Toml
