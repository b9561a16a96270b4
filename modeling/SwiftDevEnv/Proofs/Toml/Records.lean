import SwiftDevEnv.Proofs.Toml.Overlay
import SwiftDevEnv.Toml.Decode

/-!
# Reading a record out of a table, in any order

A record is read from a table entry by entry, in the table's order: an entry whose key names a
field updates the record through that field. When the fields are independent (distinct names,
fields of distinct names can be read in either order, reading a field again replaces the earlier
reading, and whether a reading succeeds depends on the value alone), the order of the entries
does not matter: reading a table is reading, field by field in the record's own order, the entry
of each field's name. Reading a second table over the record read from a first is reading the
table that holds, for each field, the second table's entry if it has one and the first's
otherwise; so reading a table twice is reading it once. Only success and the record read are
compared; which error a failing table reports first may differ.
-/

namespace SwiftDevEnv.Toml

theorem toOption_bind {ε α β : Type} (x : Except ε α) (f : α → Except ε β) :
    (x >>= f).toOption = x.toOption.bind fun a => (f a).toOption := by
  cases x <;> rfl

theorem toOption_mapError {ε ε' α : Type} (x : Except ε α) (f : ε → ε') :
    (x.mapError f).toOption = x.toOption := by
  cases x <;> rfl

@[simp] theorem toOption_ok {ε α : Type} (a : α) : (Except.ok a : Except ε α).toOption = some a :=
  rfl

theorem eq_ok_of_toOption {ε α : Type} {x : Except ε α} {a : α} (h : x.toOption = some a) :
    x = .ok a := by
  cases x with
  | error e => cases h
  | ok b => cases h; rfl

theorem mapError_eq_ok_iff {ε ε' α : Type} {x : Except ε α} {f : ε → ε'} {a : α} :
    x.mapError f = .ok a ↔ x = .ok a := by
  cases x <;> simp [Except.mapError]

/-- What each step of a fold keeps, the fold keeps. -/
theorem foldlM_invariant {σ β ε : Type} (I : σ → Prop) {step : σ → β → Except ε σ}
    {xs : List β} (hstep : ∀ s x s', I s → x ∈ xs → step s x = .ok s' → I s') {init r : σ}
    (hinit : I init) (h : xs.foldlM step init = .ok r) : I r := by
  induction xs generalizing init with
  | nil => cases h; exact hinit
  | cons x xs ih =>
    rw [List.foldlM_cons] at h
    obtain ⟨s, hs, h⟩ := bind_eq_ok_iff.mp h
    exact ih (fun s x s' hs' hx => hstep s x s' hs' (.tail _ hx))
      (hstep init x s hinit (.head _) hs) h

namespace RecordField

variable {α : Type}

/-- Reading a field, keeping only whether it succeeds and with what. -/
def readOpt (f : RecordField α) (v : Node) (acc : α) : Option α := (f.read v acc).toOption

/-- Two fields read in either order give the same outcome. -/
def Commute (f g : RecordField α) : Prop :=
  ∀ v w acc, (f.readOpt v acc).bind (g.readOpt w) = (g.readOpt w acc).bind (f.readOpt v)

/-- Reading a field again replaces what an earlier reading of it set. -/
def Overwrites (f : RecordField α) : Prop :=
  ∀ v w acc r, f.readOpt v acc = some r → f.readOpt w r = f.readOpt w acc

/-- Whether reading a field succeeds depends on the value read only. -/
def Uniform (f : RecordField α) : Prop :=
  ∀ v acc acc', (f.readOpt v acc).isSome = (f.readOpt v acc').isSome

/-- A field that decodes its value with `d` and stores what it decoded with `s`. -/
def Stores {β : Type} (f : RecordField α) (d : Node → Decode β) (s : α → β → α) : Prop :=
  ∀ v acc, f.read v acc = d v >>= fun y => pure (s acc y)

section Stores

variable {β γ : Type} {f g : RecordField α} {d : Node → Decode β} {s : α → β → α}
  {d' : Node → Decode γ} {s' : α → γ → α}

theorem Stores.readOpt (h : f.Stores d s) (v : Node) (acc : α) :
    f.readOpt v acc = (d v).toOption.map (s acc) := by
  rw [RecordField.readOpt, h]
  cases d v <;> rfl

theorem Stores.read_eq_ok (h : f.Stores d s) {v : Node} {acc r : α} (hr : f.read v acc = .ok r) :
    ∃ y, d v = .ok y ∧ r = s acc y := by
  rw [h] at hr
  obtain ⟨y, hy, hr⟩ := bind_eq_ok_iff.mp hr
  cases hr
  exact ⟨y, hy, rfl⟩

theorem Stores.uniform (h : f.Stores d s) : f.Uniform := by
  intro v acc acc'
  simp only [h.readOpt, Option.isSome_map]

/-- A field that stores over what it stored before overwrites its earlier reading. -/
theorem Stores.overwrites (h : f.Stores d s) (hs : ∀ acc y z, s (s acc y) z = s acc z) :
    f.Overwrites := by
  intro v w acc r hr
  obtain ⟨y, -, rfl⟩ := Option.map_eq_some_iff.mp ((h.readOpt v acc).symm.trans hr)
  have hstore : s (s acc y) = s acc := funext (hs acc y)
  rw [h.readOpt, h.readOpt, hstore]

/-- Fields that store into parts of the record that do not overlap commute. -/
theorem Stores.commute (hf : f.Stores d s) (hg : g.Stores d' s')
    (hs : ∀ acc y z, s' (s acc y) z = s (s' acc z) y) : f.Commute g := by
  intro v w acc
  show (f.readOpt v acc).bind (fun r => g.readOpt w r) =
    (g.readOpt w acc).bind (fun r => f.readOpt v r)
  simp only [hf.readOpt, hg.readOpt]
  cases (d v).toOption <;> cases (d' w).toOption <;> simp [hs]

end Stores

/-- A field that stores what it decodes, a later reading replacing what an earlier one stored. -/
def Sets (f : RecordField α) : Prop :=
  ∃ (β : Type) (d : Node → Decode β) (s : α → β → α),
    f.Stores d s ∧ ∀ acc y z, s (s acc y) z = s acc z

end RecordField

/-- Fields read independently: distinct names, fields of distinct names read in either order
with the same outcome, a field read again replacing its earlier reading, and whether a reading
succeeds decided by the value alone. -/
structure FieldsIndependent {α : Type} (fields : List (RecordField α)) : Prop where
  nodup : (fields.map (·.name)).Nodup
  commute : ∀ f ∈ fields, ∀ g ∈ fields, f.name ≠ g.name → f.Commute g
  overwrites : ∀ f ∈ fields, f.Overwrites
  uniform : ∀ f ∈ fields, f.Uniform

theorem FieldsIndependent.of_cons {α : Type} {f : RecordField α} {fields : List (RecordField α)}
    (h : FieldsIndependent (f :: fields)) : FieldsIndependent fields where
  nodup := (List.nodup_cons.mp h.nodup).2
  commute g hg g' hg' := h.commute g (.tail _ hg) g' (.tail _ hg')
  overwrites g hg := h.overwrites g (.tail _ hg)
  uniform g hg := h.uniform g (.tail _ hg)

/-- Fields of distinct names that commute and each store what they decode are independent. -/
theorem FieldsIndependent.of_sets {α : Type} {fields : List (RecordField α)}
    (hnodup : (fields.map (·.name)).Nodup)
    (hcommute : ∀ f ∈ fields, ∀ g ∈ fields, f.name ≠ g.name → f.Commute g)
    (hsets : ∀ f ∈ fields, f.Sets) : FieldsIndependent fields where
  nodup := hnodup
  commute := hcommute
  overwrites f hf := by
    obtain ⟨β, d, s, hstores, hs⟩ := hsets f hf
    exact hstores.overwrites hs
  uniform f hf := by
    obtain ⟨β, d, s, hstores, -⟩ := hsets f hf
    exact hstores.uniform

/-- The head of independent fields names none of the others. -/
theorem FieldsIndependent.name_ne {α : Type} {f : RecordField α} {fields : List (RecordField α)}
    (h : FieldsIndependent (f :: fields)) {g : RecordField α} (hg : g ∈ fields) :
    f.name ≠ g.name := by
  intro hname
  exact (List.nodup_cons.mp h.nodup).1 (List.mem_map.mpr ⟨g, hg, hname.symm⟩)

section Steps

variable {α : Type} (fields : List (RecordField α))

/-- One entry of a table read into a record: through its field, if its key names one. -/
def entryStep (acc : α) (e : Key × Node) : Option α :=
  match fields.find? (·.name == e.1.name) with
  | some f => f.readOpt e.2 acc
  | none => some acc

/-- One field of a record read from a table: from the field's entry, if the table has one. -/
def fieldStep (entries : List (Key × Node)) (acc : α) (f : RecordField α) : Option α :=
  match lookup f.name entries with
  | some v => f.readOpt v acc
  | none => some acc

/-- The names a reading of `entries` has seen, on top of `seen`. -/
def seenAfter (entries : List (Key × Node)) (seen : List String) : List String :=
  entries.foldl (fun s e => if fields.any (·.name == e.1.name) then e.1.name :: s else s) seen

end Steps

section Reading

variable {α : Type} {fields : List (RecordField α)}

theorem mem_seenAfter {entries : List (Key × Node)} {seen : List String} {n : String} :
    n ∈ seenAfter fields entries seen ↔
      n ∈ seen ∨ ∃ e ∈ entries, e.1.name = n ∧ fields.any (·.name == e.1.name) := by
  induction entries generalizing seen with
  | nil => simp [seenAfter]
  | cons e rest ih =>
    simp only [seenAfter, List.foldl_cons] at ih ⊢
    rw [ih]
    split <;> rename_i h <;> simp <;> grind

/-- The names seen after one entry, on top of `seen`. -/
theorem seenAfter_cons (e : Key × Node) (rest : List (Key × Node)) (seen : List String) :
    seenAfter fields (e :: rest) seen = seenAfter fields rest
      (if fields.any (·.name == e.1.name) then e.1.name :: seen else seen) := rfl

/-- A table read entry by entry, by any step that reads one entry as `entryStep` does and notes
its key when it names a field, gives the record of the fold of `entryStep` and the names seen. -/
theorem foldlM_readEntry_toOption {ε : Type}
    (step : α × List String → Key × Node → Except ε (α × List String))
    (hstep : ∀ acc seen e, (step (acc, seen) e).toOption = (entryStep fields acc e).map fun r =>
      (r, if fields.any (·.name == e.1.name) then e.1.name :: seen else seen))
    (entries : List (Key × Node)) (acc : α) (seen : List String) :
    (entries.foldlM step (acc, seen)).toOption =
      (entries.foldlM (entryStep fields) acc).map fun r => (r, seenAfter fields entries seen) := by
  induction entries generalizing acc seen with
  | nil => rfl
  | cons e rest ih =>
    rw [List.foldlM_cons, List.foldlM_cons, toOption_bind, hstep, seenAfter_cons]
    cases entryStep fields acc e with
    | none => rfl
    | some r => exact ih r _

/-- The step of `readRecord` over a table reads one entry as `entryStep` does. -/
theorem readEntry_toOption (acc : α) (seen : List String) (e : Key × Node) :
    (match fields.find? (·.name == e.1.name) with
      | some f => do return (← underKey e.1 e.2 (f.read e.2 acc), e.1.name :: seen)
      | none => pure (acc, seen) : Decode (α × List String)).toOption =
    (entryStep fields acc e).map fun r =>
      (r, if fields.any (·.name == e.1.name) then e.1.name :: seen else seen) := by
  cases hf : fields.find? (fun g => g.name == e.1.name) with
  | some f =>
    have hany : fields.any (·.name == e.1.name) = true :=
      List.any_eq_true.mpr ⟨f, List.mem_of_find?_eq_some hf, by simpa using List.find?_some hf⟩
    simp only [entryStep, hf, hany, if_true, underKey, toOption_bind, toOption_mapError,
      RecordField.readOpt]
    cases (f.read e.2 acc).toOption <;> rfl
  | none =>
    have hany : fields.any (·.name == e.1.name) = false := by
      simpa [List.find?_eq_none] using hf
    simp only [entryStep, hf, hany]
    rfl

/-- Reading a record from a table that has an entry for every field it must have: only the fold
of `entryStep` decides the outcome. -/
theorem readRecord_table_toOption (mode : Mode) (name : String) (init : α)
    (entries : List (Key × Node)) (shape : Shape) (span : Option Span)
    (hneeded : ∀ f ∈ fields, f.neededInTable = true → ∃ e ∈ entries, e.1.name = f.name) :
    (readRecord mode name fields init (.table entries shape span)).toOption =
      entries.foldlM (entryStep fields) init := by
  unfold readRecord placed
  rw [toOption_mapError]
  dsimp only
  rw [toOption_bind, foldlM_readEntry_toOption _ (fun acc seen e => readEntry_toOption acc seen e)]
  cases entries.foldlM (entryStep fields) init with
  | none => rfl
  | some r =>
    have hnone : fields.find? (fun f => f.neededInTable && !(seenAfter fields entries []).contains
        f.name) = none := by
      rw [List.find?_eq_none]
      intro f hf hcond
      simp only [Bool.and_eq_true, Bool.not_eq_true', List.contains_eq_mem,
        decide_eq_false_iff_not] at hcond
      obtain ⟨e, he, hname⟩ := hneeded f hf hcond.1
      refine hcond.2 (mem_seenAfter.mpr (.inr ⟨e, he, hname, ?_⟩))
      exact List.any_eq_true.mpr ⟨f, hf, by simp [hname]⟩
    simp only [Option.map_some, Option.bind_some, hnone]
    rfl

/-- A property that every field's reading keeps holds of every record read, from a table or
from an array. -/
theorem readRecord_invariant (P : α → Prop)
    (hread : ∀ f ∈ fields, ∀ v acc r, P acc → f.read v acc = .ok r → P r) {mode : Mode}
    {name : String} {init r : α} {n : Node} (hinit : P init)
    (h : readRecord mode name fields init n = .ok r) : P r := by
  unfold readRecord placed at h
  rw [mapError_eq_ok_iff] at h
  split at h
  case h_1 entries _ _ =>
    obtain ⟨⟨value, seen⟩, hfold, h⟩ := bind_eq_ok_iff.mp h
    have hvalue : P value := by
      refine foldlM_invariant (fun st => P st.1) ?_ hinit hfold
      intro ⟨acc, seen⟩ ⟨k, v⟩ s' hacc _ hs
      dsimp only at hs
      split at hs
      case h_1 f hf =>
        obtain ⟨r', hr', hs⟩ := bind_eq_ok_iff.mp hs
        cases hs
        exact hread f (List.mem_of_find?_eq_some hf) v acc r' hacc (mapError_eq_ok_iff.mp hr')
      case h_2 => cases hs; exact hacc
    dsimp only at h
    split at h
    · cases h
    · cases h; exact hvalue
  case h_2 items _ | h_3 items _ =>
    obtain ⟨⟨value, i⟩, hfold, h⟩ := bind_eq_ok_iff.mp h
    have hvalue : P value := by
      refine foldlM_invariant (fun st => P st.1) ?_ hinit hfold
      intro ⟨acc, i⟩ f s' hacc hf hs
      dsimp only at hs
      split at hs
      case h_1 x _ =>
        obtain ⟨r', hr', hs⟩ := bind_eq_ok_iff.mp hs
        cases hs
        exact hread f hf x acc r' hacc (mapError_eq_ok_iff.mp hr')
      case h_2 =>
        split at hs
        · cases hs
        · cases hs; exact hacc
    dsimp only at h
    split at h
    · cases h
    · cases h; exact hvalue
  case h_4 => cases h

end Reading

section Fields

variable {α : Type} {fields : List (RecordField α)}

theorem foldlM_fieldStep_nil (init : α) : fields.foldlM (fieldStep []) init = some init := by
  induction fields generalizing init with
  | nil => rfl
  | cons f fs ih => exact ih init

/-- Tables that agree on the entries of the fields read a record alike. -/
theorem foldlM_fieldStep_congr {E E' : List (Key × Node)}
    (h : ∀ f ∈ fields, lookup f.name E = lookup f.name E') (init : α) :
    fields.foldlM (fieldStep E) init = fields.foldlM (fieldStep E') init := by
  induction fields generalizing init with
  | nil => rfl
  | cons f fs ih =>
    have hf : fieldStep E init f = fieldStep E' init f := by
      simp only [fieldStep, h f (.head _)]
    simp only [List.foldlM_cons, hf, ih (fun g hg => h g (.tail _ hg))]

/-- The steps of commuting fields commute, each reading its own table. -/
theorem fieldStep_commute {f g : RecordField α} (hfg : f.Commute g) (E E' : List (Key × Node))
    (acc : α) :
    (fieldStep E acc f).bind (fieldStep E' · g) = (fieldStep E' acc g).bind (fieldStep E · f) := by
  cases hv : lookup f.name E <;> cases hw : lookup g.name E' <;>
    simp only [fieldStep, hv, hw, Option.bind_some]
  case some.some v w => exact hfg v w acc
  all_goals simp

/-- A field commuting with each of `fs` can be read before or after all of them. -/
theorem foldlM_fieldStep_commute {f : RecordField α} {fs : List (RecordField α)}
    (hcomm : ∀ g ∈ fs, g.Commute f) (E E' : List (Key × Node)) (acc : α) :
    (fs.foldlM (fieldStep E) acc).bind (fieldStep E' · f) =
      (fieldStep E' acc f).bind (fs.foldlM (fieldStep E)) := by
  induction fs generalizing acc with
  | nil => simp
  | cons g gs ih =>
    have hgs : ∀ g' ∈ gs, g'.Commute f := fun g' hg' => hcomm g' (.tail _ hg')
    calc ((g :: gs).foldlM (fieldStep E) acc).bind (fieldStep E' · f)
        _ = (fieldStep E acc g).bind fun a => (fieldStep E' a f).bind (gs.foldlM (fieldStep E)) := by
          simp only [List.foldlM_cons, Option.bind_eq_bind, Option.bind_assoc, ih hgs]
        _ = ((fieldStep E acc g).bind (fieldStep E' · f)).bind (gs.foldlM (fieldStep E)) := by
          rw [Option.bind_assoc]
        _ = ((fieldStep E' acc f).bind (fieldStep E · g)).bind (gs.foldlM (fieldStep E)) := by
          rw [fieldStep_commute (hcomm g (.head _)) E E' acc]
        _ = (fieldStep E' acc f).bind ((g :: gs).foldlM (fieldStep E)) := by
          simp only [List.foldlM_cons, Option.bind_eq_bind, Option.bind_assoc]

/-- Whether a reading of fields that succeed or fail by their values alone succeeds does not
depend on where it starts. -/
theorem foldlM_fieldStep_isSome (huniform : ∀ f ∈ fields, f.Uniform) (E : List (Key × Node))
    (a a' : α) :
    (fields.foldlM (fieldStep E) a).isSome = (fields.foldlM (fieldStep E) a').isSome := by
  induction fields generalizing a a' with
  | nil => rfl
  | cons f fs ih =>
    have hrest : ∀ g ∈ fs, g.Uniform := fun g hg => huniform g (.tail _ hg)
    have hf : (fieldStep E a f).isSome = (fieldStep E a' f).isSome := by
      cases hv : lookup f.name E
      · simp [fieldStep, hv]
      · simp only [fieldStep, hv]
        exact huniform f (.head _) _ a a'
    simp only [List.foldlM_cons, Option.bind_eq_bind]
    cases hb : fieldStep E a f <;> cases hb' : fieldStep E a' f
    case none.none => rfl
    case some.some => exact ih hrest _ _
    all_goals simp [hb, hb'] at hf

/-- A table whose first entry names one of independent fields, which the rest does not name,
reads that field first. -/
theorem foldlM_fieldStep_cons_entry (hind : FieldsIndependent fields) {k : Key} {n : Node}
    {es : List (Key × Node)} {f₀ : RecordField α} (hf₀ : f₀ ∈ fields)
    (hname : k.name = f₀.name) (hnone : lookup f₀.name es = none) (init : α) :
    fields.foldlM (fieldStep ((k, n) :: es)) init =
      (f₀.readOpt n init).bind (fields.foldlM (fieldStep es)) := by
  induction fields generalizing init with
  | nil => cases hf₀
  | cons g gs ih =>
    have hrest := hind.of_cons
    have hothers : ∀ h, h.name ≠ f₀.name → ∀ acc : α,
        fieldStep ((k, n) :: es) acc h = fieldStep es acc h := by
      intro h hne acc
      simp only [fieldStep, lookup_cons, hname, Ne.symm hne, if_false]
    by_cases hg : g.name = f₀.name
    · have hgf : g = f₀ := by
        rcases List.mem_cons.mp hf₀ with h | h
        · exact h.symm
        · exact absurd hg (hind.name_ne h)
      subst hgf
      have hrest_step : ∀ acc, gs.foldlM (fieldStep ((k, n) :: es)) acc =
          gs.foldlM (fieldStep es) acc := by
        refine foldlM_fieldStep_congr fun h hh => ?_
        rw [lookup_cons, if_neg]
        rw [hname]
        exact hind.name_ne hh
      have hown : fieldStep ((k, n) :: es) init g = g.readOpt n init := by
        simp only [fieldStep, lookup_cons, hname, if_true]
      simp only [List.foldlM_cons, Option.bind_eq_bind, hown, hrest_step]
      congr
      funext a
      simp [fieldStep, hnone]
    · have hf₀' : f₀ ∈ gs := (List.mem_cons.mp hf₀).resolve_left fun h => hg (h ▸ rfl)
      have hread : ∀ acc, fieldStep [(k, n)] acc f₀ = f₀.readOpt n acc := by
        intro acc
        simp only [fieldStep, lookup_cons, hname, if_true]
      calc (g :: gs).foldlM (fieldStep ((k, n) :: es)) init
          _ = (fieldStep es init g).bind fun a =>
                (fieldStep [(k, n)] a f₀).bind (gs.foldlM (fieldStep es)) := by
            simp only [List.foldlM_cons, Option.bind_eq_bind, hothers g hg, ih hrest hf₀', hread]
          _ = ((fieldStep es init g).bind (fieldStep [(k, n)] · f₀)).bind
                (gs.foldlM (fieldStep es)) := by
            rw [Option.bind_assoc]
          _ = ((fieldStep [(k, n)] init f₀).bind (fieldStep es · g)).bind
                (gs.foldlM (fieldStep es)) := by
            rw [fieldStep_commute (hind.commute g (.head _) f₀ hf₀ hg)]
          _ = (f₀.readOpt n init).bind ((g :: gs).foldlM (fieldStep es)) := by
            simp only [List.foldlM_cons, Option.bind_eq_bind, Option.bind_assoc, hread]

/-- Reading a table of distinct keys entry by entry, in the table's order, is reading it field
by field, in the record's order, each field from the entry of its name. -/
theorem foldlM_entryStep_eq_fields (hind : FieldsIndependent fields)
    {entries : List (Key × Node)} (hnodup : (entries.map (·.1.name)).Nodup) (init : α) :
    entries.foldlM (entryStep fields) init = fields.foldlM (fieldStep entries) init := by
  induction entries generalizing init with
  | nil => exact (foldlM_fieldStep_nil init).symm
  | cons e es ih =>
    obtain ⟨k, n⟩ := e
    have hes := List.nodup_cons.mp hnodup
    rw [List.foldlM_cons]
    cases hf : fields.find? (·.name == k.name) with
    | none =>
      have hstep : entryStep fields init (k, n) = some init := by simp [entryStep, hf]
      have hskip : ∀ f ∈ fields, lookup f.name ((k, n) :: es) = lookup f.name es := by
        intro f hf'
        have hne : k.name ≠ f.name := fun h => by
          simpa [h] using List.find?_eq_none.mp hf f hf'
        rw [lookup_cons, if_neg hne]
      rw [hstep, foldlM_fieldStep_congr hskip]
      exact ih hes.2 init
    | some f₀ =>
      have hf₀ : f₀ ∈ fields := List.mem_of_find?_eq_some hf
      have hname : k.name = f₀.name := by
        have h := List.find?_some hf
        simp only [beq_iff_eq] at h
        exact h.symm
      have hstep : entryStep fields init (k, n) = f₀.readOpt n init := by simp [entryStep, hf]
      have hnone : lookup f₀.name es = none :=
        lookup_eq_none_of_not_mem (hname ▸ hes.1)
      rw [hstep, foldlM_fieldStep_cons_entry hind hf₀ hname hnone]
      simp only [Option.bind_eq_bind, ih hes.2]

/-- A field's reading over an earlier reading of it: from the upper table's entry if it has one,
else from the lower one's, as the merged table `M` has it. -/
theorem fieldStep_over {f : RecordField α} (hover : f.Overwrites) {B E M : List (Key × Node)}
    (hM : lookup f.name M = (lookup f.name E).or (lookup f.name B)) {init a : α}
    (ha : fieldStep B init f = some a) : fieldStep E a f = fieldStep M init f := by
  cases hE : lookup f.name E with
  | none =>
    simp only [hE, Option.none_or] at hM
    rw [fieldStep, hE, ← ha, fieldStep, fieldStep, hM]
  | some w =>
    simp only [hE, Option.some_or] at hM
    simp only [fieldStep, hE, hM]
    cases hB : lookup f.name B with
    | none => simp_all [fieldStep]
    | some v =>
      simp only [fieldStep, hB] at ha
      exact hover v w init a ha

/-- Independent fields read from a table `E` over the record read from a table `B` give what
they read from a table holding, for each field, `E`'s entry if it has one and `B`'s otherwise. -/
theorem foldlM_fieldStep_over (hind : FieldsIndependent fields) {B E M : List (Key × Node)}
    (hM : ∀ f ∈ fields, lookup f.name M = (lookup f.name E).or (lookup f.name B)) {init base : α}
    (hB : fields.foldlM (fieldStep B) init = some base) :
    fields.foldlM (fieldStep E) base = fields.foldlM (fieldStep M) init := by
  induction fields generalizing init base with
  | nil => simpa using hB.symm
  | cons f fs ih =>
    have hrest := hind.of_cons
    simp only [List.foldlM_cons, Option.bind_eq_bind, Option.bind_eq_some_iff] at hB
    obtain ⟨a, ha, hfs⟩ := hB
    have hcomm := foldlM_fieldStep_commute
      (fun g hg => hind.commute g (.tail _ hg) f (.head _) (hind.name_ne hg).symm) B E a
    rw [hfs, Option.bind_some] at hcomm
    have hover := fieldStep_over (hind.overwrites f (.head _)) (hM f (.head _)) ha
    simp only [List.foldlM_cons, Option.bind_eq_bind, hcomm, ← hover]
    cases hE : fieldStep E a f with
    | none => rfl
    | some a' =>
      simp only [Option.bind_some]
      cases hB' : fs.foldlM (fieldStep B) a' with
      | some base' =>
        exact ih hrest (fun g hg => hM g (.tail _ hg)) hB'
      | none =>
        have hsome := foldlM_fieldStep_isSome hrest.uniform B a' a
        simp [hB', hfs] at hsome

/-- Reading independent fields again from the same table changes nothing. -/
theorem foldlM_fieldStep_idem (hind : FieldsIndependent fields) {E : List (Key × Node)}
    {init r : α} (h : fields.foldlM (fieldStep E) init = some r) :
    fields.foldlM (fieldStep E) r = some r := by
  rw [foldlM_fieldStep_over hind (fun _ _ => Option.or_self.symm) h, h]

end Fields


end SwiftDevEnv.Toml
