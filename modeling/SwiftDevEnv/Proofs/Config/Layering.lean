import SwiftDevEnv.Proofs.Config.Fields
import SwiftDevEnv.Config.Layers

/-!
# Laying a settings text over settings

`Settings.overlay x o` reads the text `o` as a document, lays its plain value over the plain form of
the settings `x`, and reads settings back out of the result. Whatever goes wrong is reported as a
parse error. Read at the level of the settings, the result is `Settings.layered`: a section the
layer leaves out is kept; a section the layer gives as a table has each of its fields read from
the layer's entry of that name if it has one and kept otherwise; a section given as anything else
is read from the layer's value alone; and the declared targets, an array, are replaced whole.

So laying the empty text changes nothing, and laying the same text twice is laying it once. The
settings must have counts that fit the widths they are read with, as every settings read have.
-/

namespace SwiftDevEnv.Config

open SwiftDevEnv.Toml

/-- A section after a layer: kept when the layer leaves it out, read field by field over the
section when the layer gives a table, and read from the layer's value alone, from `init`,
otherwise. -/
def layerSection {β : Type} (fields : List (RecordField β)) (name : String) (init base : β) :
    Option Node → Option β
  | none => some base
  | some (.table entries _ _) => fields.foldlM (fieldStep entries) base
  | some n => (readRecord .plain name fields init n).toOption

/-- The settings a layer gives over the settings `x`, each section as `layerSection` has it and
the targets replaced by the layer's if it has them. A layer that is no table replaces all. -/
def Settings.layered (x : Settings) : Node → Option Settings
  | .table entries _ _ => do
    let backend ← layerSection (backendFields .plain) "SourcekiteConfig" {} x.backend
      (lookup "sourcekite" entries)
    let compiler ← layerSection (compilerFields .plain) "SwiftConfig" {} x.compiler
      (lookup "swift" entries)
    let format ← layerSection (formatFields .plain) "FormatConfig" {} x.format
      (lookup "format" entries)
    let log ← layerSection (logFields .plain) "LogConfig" {} x.log (lookup "log" entries)
    let targets ← match lookup "targets" entries with
      | some n => (readList .plain (readTarget .plain) n).toOption
      | none => some x.targets
    pure { backend, compiler, format, log, targets }
  | n => (readConfig .plain n).toOption

/-! ## One section -/

section Section

variable {β : Type} {fields : List (RecordField β)} {l : List (String × Option Node)}
  {init base : β}

/-- A section the layer leaves out reads back as it was. -/
theorem readRecord_plainTable (hind : FieldsIndependent fields)
    (hoptional : ∀ f ∈ fields, f.neededInTable = false) (hl : PlainTable l)
    (hround : fields.foldlM (fieldStep (sortEntries (presentEntries l))) init = some base)
    (name : String) :
    (readRecord .plain name fields init (plainTable l)).toOption = some base := by
  have hneeded : ∀ f ∈ fields, f.neededInTable = true →
      ∃ e ∈ sortEntries (presentEntries l), e.1.name = f.name := by
    intro f hf h
    simp [hoptional f hf] at h
  rw [plainTable_eq, readRecord_table_toOption _ _ _ _ _ _ hneeded,
    foldlM_entryStep_eq_fields hind hl.ascending.nodup, hround]

/-- A section the layer gives is read as `layerSection` says. The merged entries hold the layer's
value of a field when it has one and the section's otherwise; a section's values are no tables, so
the layer's value replaces them. -/
theorem readRecord_plainTable_overlay (hind : FieldsIndependent fields)
    (hoptional : ∀ f ∈ fields, f.neededInTable = false) (hl : PlainTable l)
    (hround : fields.foldlM (fieldStep (sortEntries (presentEntries l))) init = some base)
    (name : String) (n : Node) (hn : n.KeysDistinct) :
    (readRecord .plain name fields init ((plainTable l).overlay n)).toOption =
      layerSection fields name init base (some n) := by
  cases n
  case table E shape span =>
    have hE : (E.map (·.1.name)).Nodup := (Node.KeysDistinct.table_iff.mp hn).1
    have hM : ∀ f ∈ fields, lookup f.name (overlayEntries (sortEntries (presentEntries l)) E) =
        (lookup f.name E).or (lookup f.name (sortEntries (presentEntries l))) := by
      intro f _
      rw [lookup_overlayEntries _ E hE]
      cases hv : lookup f.name E with
      | none => rfl
      | some t =>
        cases hb : lookup f.name (sortEntries (presentEntries l)) with
        | none => rfl
        | some old =>
          obtain ⟨k, hmem, -⟩ := mem_of_lookup_eq_some hb
          simp [overlayOver, Node.overlay_of_not_isTable_left old t (hl.isTable_eq_false _ hmem)]
    have hneeded : ∀ f ∈ fields, f.neededInTable = true →
        ∃ e ∈ overlayEntries (sortEntries (presentEntries l)) E, e.1.name = f.name := by
      intro f hf h
      simp [hoptional f hf] at h
    rw [plainTable_eq]
    simp only [Node.overlay, layerSection]
    rw [readRecord_table_toOption _ _ _ _ _ _ hneeded,
      foldlM_entryStep_eq_fields hind (ascending_overlayEntries hl.ascending E).nodup,
      foldlM_fieldStep_over hind hM hround]
  all_goals rfl

/-- Reading a section again from the layer that gave it changes nothing. -/
theorem layerSection_idem (hind : FieldsIndependent fields) {name : String} {r : β}
    {t : Option Node} (h : layerSection fields name init base t = some r) :
    layerSection fields name init r t = some r := by
  match t, h with
  | none, _ => rfl
  | some (.table entries _ _), h => exact foldlM_fieldStep_idem hind h
  | some (.string ..), h | some (.integer ..), h | some (.float ..), h | some (.boolean ..), h
  | some (.datetime ..), h | some (.array ..), h | some (.tables ..), h => exact h

end Section

/-! ## The settings -/

section Settings

variable (x : Settings) {entries : List (Key × Node)}

/-- The plain form of the settings holds each section once. -/
theorem lookup_plainEntries (key : String) :
    lookup key (sortEntries (presentEntries x.plainEntries)) =
      lookup key (presentEntries x.plainEntries) :=
  lookup_sortEntries ((names_presentEntries_sublist _).nodup x.plainEntries_nodup) key

/-- Where the plain form of the settings holds its sections. -/
theorem lookup_plainEntries_sections :
    lookup "sourcekite" (sortEntries (presentEntries x.plainEntries)) =
        some (plainTable x.backend.plainEntries) ∧
      lookup "swift" (sortEntries (presentEntries x.plainEntries)) =
        some (plainTable x.compiler.plainEntries) ∧
      lookup "format" (sortEntries (presentEntries x.plainEntries)) =
        some (plainTable x.format.plainEntries) ∧
      lookup "log" (sortEntries (presentEntries x.plainEntries)) =
        some (plainTable x.log.plainEntries) ∧
      lookup "targets" (sortEntries (presentEntries x.plainEntries)) =
        some (.array (x.targets.map fun t => plainTable t.plainEntries) none) := by
  simp only [lookup_plainEntries]
  simp [Settings.plainEntries, lookup_presentEntries_cons]

/-- A section of the settings, read from the merged tree, is read as `layerSection` says. -/
theorem fieldStep_overlay_section {β : Type} {fields : List (RecordField β)}
    {l : List (String × Option Node)} {init base : β} (hind : FieldsIndependent fields)
    (hoptional : ∀ f ∈ fields, f.neededInTable = false) (hl : PlainTable l)
    (hround : fields.foldlM (fieldStep (sortEntries (presentEntries l))) init = some base)
    (name key : String)
    (hkey : lookup key (sortEntries (presentEntries x.plainEntries)) = some (plainTable l))
    (hkeys : ∀ e ∈ entries, e.2.KeysDistinct) (hnodup : (entries.map (·.1.name)).Nodup)
    (s : Settings → β → Settings) (acc : Settings) :
    fieldStep (overlayEntries (sortEntries (presentEntries x.plainEntries)) entries) acc
        (storedField key (readRecord .plain name fields init) s) =
      (layerSection fields name init base (lookup key entries)).map (s acc) := by
  have hf := storedField_stores key (readRecord .plain name fields init) s
  cases ht : lookup key entries with
  | none =>
    simp only [fieldStep, storedField_name, lookup_overlayEntries _ entries hnodup, hkey, ht]
    rw [hf.readOpt, readRecord_plainTable hind hoptional hl hround]
    rfl
  | some t =>
    obtain ⟨k, hmem, -⟩ := mem_of_lookup_eq_some ht
    simp only [fieldStep, storedField_name, lookup_overlayEntries _ entries hnodup, hkey, ht,
      overlayOver]
    rw [hf.readOpt,
      readRecord_plainTable_overlay hind hoptional hl hround name t (hkeys _ hmem)]

/-- The targets of the settings, read from the merged tree: the layer's if it has them. -/
theorem fieldStep_overlay_targets (hnodup : (entries.map (·.1.name)).Nodup) (acc : Settings) :
    fieldStep (overlayEntries (sortEntries (presentEntries x.plainEntries)) entries) acc
        (storedField "targets" (readList .plain (readTarget .plain)) fun c targets =>
          { c with targets }) =
      (match lookup "targets" entries with
        | some n => (readList .plain (readTarget .plain) n).toOption
        | none => some x.targets).map fun targets => { acc with targets } := by
  have hf := storedField_stores "targets" (readList .plain (readTarget .plain))
    fun (c : Settings) targets => { c with targets }
  have htargets := (lookup_plainEntries_sections x).2.2.2.2
  cases ht : lookup "targets" entries with
  | none =>
    simp only [fieldStep, storedField_name, lookup_overlayEntries _ entries hnodup, htargets, ht]
    rw [hf.readOpt, readTargets_plain]
    rfl
  | some t =>
    simp only [fieldStep, storedField_name, lookup_overlayEntries _ entries hnodup, htargets, ht,
      overlayOver]
    rw [Node.overlay_of_not_isTable_left _ _ rfl, hf.readOpt]

/-- Read at the level of the settings, laying a tree of distinct keys over the plain form of
settings gives `Settings.layered`. -/
theorem readConfig_overlay {n : Node} (hn : n.KeysDistinct) :
    (readConfig .plain (x.toNode.overlay n)).toOption = x.layered n := by
  cases n
  case table entries shape span =>
    obtain ⟨hnodup, hkeys⟩ := Node.KeysDistinct.table_iff.mp hn
    obtain ⟨hbackend, hcompiler, hformat, hlog, -⟩ := lookup_plainEntries_sections x
    have htop : Ascending (sortEntries (presentEntries x.plainEntries)) :=
      ascending_sortEntries ((names_presentEntries_sublist _).nodup x.plainEntries_nodup)
    have hneeded : ∀ f ∈ configFields .plain, f.neededInTable = true →
        ∃ e ∈ overlayEntries (sortEntries (presentEntries x.plainEntries)) entries,
          e.1.name = f.name := by
      simp [configFields, optionalField]
    rw [Settings.toNode_eq]
    simp only [Node.overlay]
    rw [readConfig, readRecord_table_toOption _ _ _ _ _ _ hneeded,
      foldlM_entryStep_eq_fields (configFields_independent .plain)
        (ascending_overlayEntries htop entries).nodup, configFields_eq]
    simp only [List.foldlM_cons, List.foldlM_nil, Option.bind_eq_bind,
      fieldStep_overlay_section x (backendFields_independent .plain)
        (by simp [backendFields, optionalField]) x.backend.isPlainTable
        x.backend.read_plainEntries _ _ hbackend hkeys hnodup,
      fieldStep_overlay_section x (compilerFields_independent .plain)
        (by simp [compilerFields, optionalField]) x.compiler.isPlainTable
        x.compiler.read_plainEntries _ _ hcompiler hkeys hnodup,
      fieldStep_overlay_section x (formatFields_independent .plain)
        (by simp [formatFields, optionalField]) x.format.isPlainTable
        x.format.read_plainEntries _ _ hformat hkeys hnodup,
      fieldStep_overlay_section x (logFields_independent .plain)
        (by simp [logFields, optionalField]) x.log.isPlainTable
        x.log.read_plainEntries _ _ hlog hkeys hnodup,
      fieldStep_overlay_targets x hnodup]
    simp only [Settings.layered]
    cases lookup "targets" entries <;> simp [Option.map_eq_bind, Option.bind_assoc]
  all_goals rfl

/-- A layer that holds nothing keeps the settings. -/
theorem layered_empty (shape : Shape) (span : Option Span) :
    x.layered (.table [] shape span) = some x := by
  simp [Settings.layered, layerSection]

/-- Laying a layer over what it already gave changes nothing. The targets are replaced or kept, and
either way the sections are read again to themselves. -/
theorem layered_idem {c : Settings} {n : Node} (h : x.layered n = some c) : c.layered n = some c := by
  cases n
  case table entries shape span =>
    simp only [Settings.layered] at h ⊢
    generalize lookup "targets" entries = t at h ⊢
    cases t <;>
      simp only [Option.bind_eq_bind, Option.bind_eq_some_iff, Option.bind_some, Option.pure_def,
        Option.some.injEq] at h ⊢
    · obtain ⟨b, hb, cc, hcc, f, hf, l, hl, rfl⟩ := h
      exact ⟨b, layerSection_idem (backendFields_independent _) hb,
        cc, layerSection_idem (compilerFields_independent _) hcc,
        f, layerSection_idem (formatFields_independent _) hf,
        l, layerSection_idem (logFields_independent _) hl, rfl⟩
    · obtain ⟨b, hb, cc, hcc, f, hf, l, hl, ts, hts, rfl⟩ := h
      exact ⟨b, layerSection_idem (backendFields_independent _) hb,
        cc, layerSection_idem (compilerFields_independent _) hcc,
        f, layerSection_idem (formatFields_independent _) hf,
        l, layerSection_idem (logFields_independent _) hl, ts, hts, rfl⟩
  all_goals exact h

end Settings

/-! ## Laying a text -/

section Text

variable (x : Settings) (o : String)

/-- Whatever goes wrong in laying a text is reported as a parse error. -/
theorem overlay_error_is_parse {e : ConfigError} (h : x.overlay o = .error e) :
    ∃ m, e = .parse m := by
  unfold Settings.overlay at h
  cases hp : parse o with
  | error err =>
    simp only [hp, Except.mapError, bind, Except.bind] at h
    exact ⟨_, (Except.error.inj h).symm⟩
  | ok root =>
    cases hr : readConfig .plain (x.toNode.overlay root.plain) with
    | error err =>
      simp only [hp, hr, Except.mapError, bind, Except.bind] at h
      exact ⟨_, (Except.error.inj h).symm⟩
    | ok c =>
      simp only [hp, hr, Except.mapError, bind, Except.bind] at h
      cases h

/-- Laying a text that reads as a document reads the settings out of the merged tree. -/
theorem overlay_eq_ok {c : Settings} (h : x.overlay o = .ok c) :
    ∃ root, parse o = .ok root ∧ readConfig .plain (x.toNode.overlay root.plain) = .ok c := by
  unfold Settings.overlay at h
  cases hp : parse o with
  | error err =>
    rw [hp] at h
    cases h
  | ok root =>
    rw [hp] at h
    exact ⟨root, rfl, mapError_eq_ok_iff.mp h⟩

/-- Laying a text over settings gives the settings `Settings.layered` says. -/
theorem overlay_toOption :
    (x.overlay o).toOption = (parse o).toOption.bind fun root => x.layered root.plain := by
  unfold Settings.overlay
  rw [toOption_bind, toOption_mapError]
  cases hp : parse o with
  | error err => rfl
  | ok root =>
    simp only [toOption_ok, Option.bind_some, toOption_mapError]
    exact readConfig_overlay x (parse_keysDistinct hp).plain

/-- Whether a node is a table with nothing in it. -/
def isEmptyTable : Node → Bool
  | .table [] _ _ => true
  | _ => false

/-- The empty text is read as a table with nothing in it. -/
theorem parse_empty : ∃ shape span, parse "" = .ok (.table [] shape span) := by
  have h : (parse "").toOption.map isEmptyTable = some true := by decide +kernel
  cases hp : parse "" with
  | error e =>
    rw [hp] at h
    cases h
  | ok root =>
    simp only [hp, toOption_ok, Option.map_some, Option.some.injEq] at h
    cases root
    case table entries shape span =>
      cases entries
      · exact ⟨shape, span, rfl⟩
      · simp [isEmptyTable] at h
    all_goals simp [isEmptyTable] at h

theorem overlay_empty : x.overlay "" = .ok x := by
  obtain ⟨shape, span, hparse⟩ := parse_empty
  apply eq_ok_of_toOption
  rw [overlay_toOption x "", hparse]
  simp only [toOption_ok, Option.bind_some, Node.plain, plainEntries, sortEntries,
    List.mergeSort_nil]
  exact layered_empty x _ _

/-- Laying the same text twice is laying it once. -/
theorem overlay_overlay :
    (x.overlay o >>= fun c => c.overlay o) = x.overlay o := by
  cases h : x.overlay o with
  | error e => rfl
  | ok c =>
    simp only [bind, Except.bind]
    obtain ⟨root, hp, hread⟩ := overlay_eq_ok x o h
    have hlayered : x.layered root.plain = some c := by
      rw [← readConfig_overlay x (parse_keysDistinct hp).plain, hread]
      rfl
    apply eq_ok_of_toOption
    rw [overlay_toOption c o, hp]
    exact layered_idem x hlayered

/-- Laying a settings text over settings. Every failure is reported as a parse error.
The settings that come out are those `Settings.layered` gives for the text's plain value: a section
or a field the text leaves out keeps its value, one the text sets to anything but a table takes
the text's value (arrays and the declared targets replaced whole), and a section the text gives
as a table is merged field by field. In the merged tree, read at any path of keys, the text's
value stands where the text sets that path or one above it to something other than a table, the
settings' value stands where the text holds nothing, and where both hold a value the two are
merged, so tables merge key by key at every depth. Laying the empty text changes nothing, and
laying the same text twice is laying it once. -/
theorem overlay_merges_text_into_settings (x : Settings) (o : String) :
    (∀ e, x.overlay o = .error e → ∃ m, e = .parse m) ∧
    (x.overlay o).toOption = (parse o).toOption.bind (fun root => x.layered root.plain) ∧
    (∀ root, parse o = .ok root → ∀ ks,
      (root.plain.Sets ks → (x.toNode.overlay root.plain).get ks = root.plain.get ks) ∧
      (¬ root.plain.Sets ks → root.plain.get ks = none →
        (x.toNode.overlay root.plain).get ks = x.toNode.get ks) ∧
      (∀ u v, x.toNode.get ks = some u → root.plain.get ks = some v →
        (x.toNode.overlay root.plain).get ks = some (u.overlay v))) ∧
    x.overlay "" = .ok x ∧
    (x.overlay o >>= fun c => c.overlay o) = x.overlay o := by
  refine ⟨fun e h => overlay_error_is_parse x o h, overlay_toOption x o, ?_, overlay_empty x,
    overlay_overlay x o⟩
  intro root hp ks
  have hkeys := (parse_keysDistinct hp).plain
  exact ⟨get_overlay_of_sets _ _ hkeys ks, get_overlay_of_get_eq_none _ _ hkeys ks,
    fun u v hu hv => get_overlay_of_get_eq_some _ _ hkeys ks hu hv⟩

/-- A text that switches tabs on, laid over the default settings: only that field changes. -/
theorem tabs_over_default_settings :
    (({} : Settings).overlay "[format]\nuse_tabs = true\n").toOption =
      some { format := { useTabs := true } } := by
  rw [(overlay_merges_text_into_settings {} "[format]\nuse_tabs = true\n").2.1]
  decide +kernel

end Text


end SwiftDevEnv.Config
