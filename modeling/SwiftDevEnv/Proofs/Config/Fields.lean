import SwiftDevEnv.Proofs.Toml.Records
import SwiftDevEnv.Config.Decode

/-!
# The fields of the settings

Every field of every section decodes its value and stores it in a part of the record that no
other field touches, so the fields of each section are independent (`FieldsIndependent`): a
table is read alike in any order of its keys, and reading a table again changes nothing.

The plain form of a section reads back to the same section: its counts are held in the widths
they are read with, so every count written out is read back as it was.
-/

namespace SwiftDevEnv.Config

open SwiftDevEnv.Toml

/-- A field whose reading decodes the value with `d` and stores what it decoded with `s`. -/
theorem stores_mk {α β : Type} (name : String) (inTable inArray : Bool) (d : Node → Decode β)
    (s : α → β → α) :
    (⟨name, inTable, inArray, fun n acc => d n >>= fun y => pure (s acc y)⟩ :
      RecordField α).Stores d s :=
  fun _ _ => rfl

/-- A field that may be left out, whose reading decodes the value with `d` and stores what it
decoded with `s`: the shape of every field of the settings. -/
def storedField {α β : Type} (name : String) (d : Node → Decode β) (s : α → β → α) :
    RecordField α :=
  optionalField name fun n acc => d n >>= fun y => pure (s acc y)

theorem storedField_stores {α β : Type} (name : String) (d : Node → Decode β) (s : α → β → α) :
    (storedField name d s).Stores d s :=
  fun _ _ => rfl

@[simp] theorem storedField_name {α β : Type} (name : String) (d : Node → Decode β)
    (s : α → β → α) : (storedField name d s).name = name :=
  rfl

/-- The sections of the settings, each a stored field. -/
theorem configFields_eq (mode : Mode) : configFields mode = [
    storedField "sourcekite" (readRecord mode "SourcekiteConfig" (backendFields mode) {})
      fun c backend => { c with backend },
    storedField "swift" (readRecord mode "SwiftConfig" (compilerFields mode) {})
      fun c compiler => { c with compiler },
    storedField "format" (readRecord mode "FormatConfig" (formatFields mode) {})
      fun c format => { c with format },
    storedField "log" (readRecord mode "LogConfig" (logFields mode) {}) fun c log => { c with log },
    storedField "targets" (readList mode (readTarget mode)) fun c targets => { c with targets }] :=
  rfl

/-! ## Independent fields

In each section a field of one name stores into its own part of the record, so two fields of
distinct names commute and a field read again overwrites itself. The proofs run over every pair
of fields of the section. -/

section Independence

variable (mode : Mode)

theorem backendFields_independent : FieldsIndependent (backendFields mode) := by
  refine .of_sets (by simp [backendFields, optionalField]) ?_ ?_ <;>
    simp only [backendFields, List.mem_cons, List.not_mem_nil, or_false]
  · rintro f (rfl | rfl | rfl | rfl | rfl | rfl | rfl | rfl)
      g (rfl | rfl | rfl | rfl | rfl | rfl | rfl | rfl) hne
    all_goals first
      | exact absurd rfl hne
      | exact (stores_mk _ _ _ _ _).commute (stores_mk _ _ _ _ _) fun _ _ _ => rfl
  · rintro f (rfl | rfl | rfl | rfl | rfl | rfl | rfl | rfl)
    all_goals exact ⟨_, _, _, stores_mk _ _ _ _ _, fun _ _ _ => rfl⟩

theorem compilerFields_independent : FieldsIndependent (compilerFields mode) := by
  refine .of_sets (by simp [compilerFields, optionalField]) ?_ ?_ <;>
    simp only [compilerFields, List.mem_cons, List.not_mem_nil, or_false]
  · rintro f (rfl | rfl) g (rfl | rfl) hne
    all_goals first
      | exact absurd rfl hne
      | exact (stores_mk _ _ _ _ _).commute (stores_mk _ _ _ _ _) fun _ _ _ => rfl
  · rintro f (rfl | rfl)
    all_goals exact ⟨_, _, _, stores_mk _ _ _ _ _, fun _ _ _ => rfl⟩

theorem formatFields_independent : FieldsIndependent (formatFields mode) := by
  refine .of_sets (by simp [formatFields, optionalField]) ?_ ?_ <;>
    simp only [formatFields, List.mem_cons, List.not_mem_nil, or_false]
  · rintro f (rfl | rfl | rfl) g (rfl | rfl | rfl) hne
    all_goals first
      | exact absurd rfl hne
      | exact (stores_mk _ _ _ _ _).commute (stores_mk _ _ _ _ _) fun _ _ _ => rfl
  · rintro f (rfl | rfl | rfl)
    all_goals exact ⟨_, _, _, stores_mk _ _ _ _ _, fun _ _ _ => rfl⟩

theorem logFields_independent : FieldsIndependent (logFields mode) := by
  refine .of_sets (by simp [logFields, optionalField]) ?_ ?_ <;>
    simp only [logFields, List.mem_cons, List.not_mem_nil, or_false]
  · rintro f (rfl | rfl) g (rfl | rfl) hne
    all_goals first
      | exact absurd rfl hne
      | exact (stores_mk _ _ _ _ _).commute (stores_mk _ _ _ _ _) fun _ _ _ => rfl
  · rintro f (rfl | rfl)
    all_goals exact ⟨_, _, _, stores_mk _ _ _ _ _, fun _ _ _ => rfl⟩

theorem targetFields_independent : FieldsIndependent (targetFields mode) := by
  refine .of_sets (by simp [targetFields, optionalField]) ?_ ?_ <;>
    simp only [targetFields, List.mem_cons, List.not_mem_nil, or_false]
  · rintro f (rfl | rfl | rfl | rfl) g (rfl | rfl | rfl | rfl) hne
    all_goals first
      | exact absurd rfl hne
      | exact (stores_mk _ _ _ _ _).commute (stores_mk _ _ _ _ _) fun _ _ _ => rfl
  · rintro f (rfl | rfl | rfl | rfl)
    all_goals exact ⟨_, _, _, stores_mk _ _ _ _ _, fun _ _ _ => rfl⟩

theorem configFields_independent : FieldsIndependent (configFields mode) := by
  refine .of_sets (by simp [configFields, optionalField]) ?_ ?_ <;>
    simp only [configFields, List.mem_cons, List.not_mem_nil, or_false]
  · rintro f (rfl | rfl | rfl | rfl | rfl) g (rfl | rfl | rfl | rfl | rfl) hne
    all_goals first
      | exact absurd rfl hne
      | exact (stores_mk _ _ _ _ _).commute (stores_mk _ _ _ _ _) fun _ _ _ => rfl
  · rintro f (rfl | rfl | rfl | rfl | rfl)
    all_goals exact ⟨_, _, _, stores_mk _ _ _ _ _, fun _ _ _ => rfl⟩

end Independence

/-! ## Reading plain values back -/

section Values

variable (mode : Mode)

@[simp] theorem readText_plainText (expecting s : String) :
    readText mode expecting (plainText s) = .ok s := rfl

@[simp] theorem readPath_plainText (s : String) : readPath mode (plainText s) = .ok s := rfl

@[simp] theorem readBool_boolean (b : Bool) : readBool mode (.boolean b none) = .ok b := rfl

@[simp] theorem readLevel_name (l : LogLevel) : readLevel mode (plainText l.name) = .ok l := by
  cases l <;> rfl

theorem readUnsigned_integer (bits : Nat) (name : String) {n : Nat} (h : n < 2 ^ bits) :
    readUnsigned mode bits name (.integer n none) = .ok n := by
  have hcond : (decide (0 ≤ (n : Int)) && decide ((n : Int) < Int.pow 2 bits)) = true := by
    simp only [Bool.and_eq_true, decide_eq_true_eq]
    refine ⟨Int.natCast_nonneg n, ?_⟩
    show (n : Int) < (2 : Int) ^ bits
    exact_mod_cast h
  simp only [readUnsigned, placed, hcond, if_true]
  rfl

theorem mapM_readText_plainText (expecting : String) (xs : List String) :
    (xs.map plainText).mapM (fun x => placed x.span (readText mode expecting x)) = .ok xs := by
  induction xs with
  | nil => rfl
  | cons x xs ih =>
    simp only [List.map_cons, List.mapM_cons, ih]
    rfl

@[simp] theorem readTexts_plainTexts (xs : List String) :
    readTexts mode (plainTexts xs) = .ok xs := by
  simp only [readTexts, readList, plainTexts, Node.items?, mapM_readText_plainText]
  rfl

end Values

/-! ## Plain tables -/

/-- The entries of a plain table before they are sorted: a setting that is absent is left out. -/
def presentEntries (entries : List (String × Option Node)) : List (Key × Node) :=
  entries.filterMap fun (k, v) => v.map fun n => (⟨k, none⟩, n)

@[simp] theorem presentEntries_nil : presentEntries [] = [] := rfl

theorem plainTable_eq (entries : List (String × Option Node)) :
    plainTable entries = .table (sortEntries (presentEntries entries)) Shape.plain none := rfl

theorem lookup_presentEntries_cons (name k : String) (v : Option Node)
    (rest : List (String × Option Node)) :
    lookup name (presentEntries ((k, v) :: rest)) =
      if k = name then v.or (lookup name (presentEntries rest))
      else lookup name (presentEntries rest) := by
  cases v <;> by_cases h : k = name <;> simp [presentEntries, lookup_cons, h]

theorem names_presentEntries_sublist (entries : List (String × Option Node)) :
    ((presentEntries entries).map (·.1.name)).Sublist (entries.map (·.1)) := by
  induction entries with
  | nil => simp
  | cons e rest ih =>
    obtain ⟨k, v⟩ := e
    cases v with
    | none => exact ih.cons k
    | some n => exact ih.cons_cons k

theorem mem_presentEntries {entries : List (String × Option Node)} {e : Key × Node}
    (he : e ∈ presentEntries entries) : (e.1.name, some e.2) ∈ entries := by
  obtain ⟨⟨k, v⟩, hmem, heq⟩ := List.mem_filterMap.mp he
  obtain ⟨n, rfl, rfl⟩ := Option.map_eq_some_iff.mp heq
  exact hmem

/-- A plain table of settings of distinct names, as its sorted entries. -/
structure PlainTable (entries : List (String × Option Node)) : Prop where
  nodup : (entries.map (·.1)).Nodup
  leaves : ∀ p ∈ entries, ∀ n ∈ p.2, n.isTable = false

section PlainTable

variable {entries : List (String × Option Node)}

theorem PlainTable.ascending (h : PlainTable entries) :
    Ascending (sortEntries (presentEntries entries)) :=
  ascending_sortEntries ((names_presentEntries_sublist entries).nodup h.nodup)

theorem PlainTable.lookup_eq (h : PlainTable entries) (name : String) :
    lookup name (sortEntries (presentEntries entries)) = lookup name (presentEntries entries) :=
  lookup_sortEntries ((names_presentEntries_sublist entries).nodup h.nodup) name

theorem PlainTable.isTable_eq_false (h : PlainTable entries) :
    ∀ e ∈ sortEntries (presentEntries entries), e.2.isTable = false := by
  intro e he
  have hmem := mem_presentEntries ((List.mergeSort_perm _ _).mem_iff.mp he)
  exact h.leaves _ hmem e.2 rfl

end PlainTable

/-! ## The sections in plain form -/

/-- The settings of the backend section in plain form. -/
def BackendSettings.plainEntries (b : BackendSettings) : List (String × Option Node) :=
  [("path", some (plainText b.path)), ("args", some (plainTexts b.args)),
    ("docker_mode", some (.boolean b.dockerMode none)),
    ("docker_image", some (plainText b.dockerImage)), ("shell_path", b.shellPath.map plainText),
    ("toolchain_path", b.toolchainPath.map plainText), ("trace", some (.boolean b.trace none)),
    ("max_retries", some (.integer b.maxRetries.toNat none))]

/-- The settings of the compiler section in plain form. -/
def CompilerSettings.plainEntries (c : CompilerSettings) : List (String × Option Node) :=
  [("path", some (plainText c.path)), ("compiler_options", some (plainTexts c.compilerOptions))]

/-- The settings of the format section in plain form. -/
def FormatSettings.plainEntries (f : FormatSettings) : List (String × Option Node) :=
  [("indent_width", some (.integer f.indentWidth.toNat none)),
    ("tab_width", some (.integer f.tabWidth.toNat none)), ("use_tabs", some (.boolean f.useTabs none))]

/-- The settings of the log section in plain form. -/
def LogSettings.plainEntries (l : LogSettings) : List (String × Option Node) :=
  [("level", some (plainText l.level.name)), ("file", l.file.map plainText)]

/-- A declared target in plain form. -/
def TargetEntry.plainEntries (t : TargetEntry) : List (String × Option Node) :=
  [("name", some (plainText t.name)), ("path", some (plainText t.path)),
    ("sources", t.sources.map plainTexts),
    ("compiler_arguments", some (plainTexts t.compilerArguments))]

/-- The sections of the settings in plain form. -/
def Settings.plainEntries (c : Settings) : List (String × Option Node) :=
  [("sourcekite", some (plainTable c.backend.plainEntries)),
    ("swift", some (plainTable c.compiler.plainEntries)),
    ("format", some (plainTable c.format.plainEntries)),
    ("log", some (plainTable c.log.plainEntries)),
    ("targets", some (.array (c.targets.map fun t => plainTable t.plainEntries) none))]

theorem Settings.toNode_eq (c : Settings) :
    c.toNode = .table (sortEntries (presentEntries c.plainEntries)) Shape.plain none := rfl

theorem BackendSettings.isPlainTable (b : BackendSettings) : PlainTable b.plainEntries where
  nodup := by simp [plainEntries]
  leaves := by simp [plainEntries, plainText, plainTexts, Node.isTable]

theorem CompilerSettings.isPlainTable (c : CompilerSettings) : PlainTable c.plainEntries where
  nodup := by simp [plainEntries]
  leaves := by simp [plainEntries, plainText, plainTexts, Node.isTable]

theorem FormatSettings.isPlainTable (f : FormatSettings) : PlainTable f.plainEntries where
  nodup := by simp [plainEntries]
  leaves := by simp [plainEntries, Node.isTable]

theorem LogSettings.isPlainTable (l : LogSettings) : PlainTable l.plainEntries where
  nodup := by simp [plainEntries]
  leaves := by simp [plainEntries, plainText, Node.isTable]

theorem TargetEntry.isPlainTable (t : TargetEntry) : PlainTable t.plainEntries where
  nodup := by simp [plainEntries]
  leaves := by simp [plainEntries, plainText, plainTexts, Node.isTable]

theorem Settings.plainEntries_nodup (c : Settings) : (c.plainEntries.map (·.1)).Nodup := by
  simp [plainEntries]

/-! ## Sections read back -/

/-- The backend section in plain form reads back. -/
theorem BackendSettings.read_plainEntries (b : BackendSettings) :
    (backendFields .plain).foldlM (fieldStep (sortEntries (presentEntries b.plainEntries))) {} =
      some b := by
  rw [foldlM_fieldStep_congr fun f _ => b.isPlainTable.lookup_eq f.name]
  obtain ⟨path, args, dockerMode, dockerImage, shellPath, toolchainPath, trace, maxRetries⟩ := b
  cases shellPath <;> cases toolchainPath <;>
    simp [backendFields, optionalField, fieldStep, plainEntries, lookup_presentEntries_cons,
      RecordField.readOpt, readUnsigned_integer _ _ _ maxRetries.toNat_lt]

theorem CompilerSettings.read_plainEntries (c : CompilerSettings) :
    (compilerFields .plain).foldlM (fieldStep (sortEntries (presentEntries c.plainEntries))) {} =
      some c := by
  rw [foldlM_fieldStep_congr fun f _ => c.isPlainTable.lookup_eq f.name]
  simp [compilerFields, optionalField, fieldStep, plainEntries, lookup_presentEntries_cons,
    RecordField.readOpt]

/-- The format section in plain form reads back. -/
theorem FormatSettings.read_plainEntries (f : FormatSettings) :
    (formatFields .plain).foldlM (fieldStep (sortEntries (presentEntries f.plainEntries))) {} =
      some f := by
  rw [foldlM_fieldStep_congr fun g _ => f.isPlainTable.lookup_eq g.name]
  simp [formatFields, optionalField, fieldStep, plainEntries, lookup_presentEntries_cons,
    RecordField.readOpt, readUnsigned_integer _ _ _ f.indentWidth.toNat_lt,
    readUnsigned_integer _ _ _ f.tabWidth.toNat_lt]

theorem LogSettings.read_plainEntries (l : LogSettings) :
    (logFields .plain).foldlM (fieldStep (sortEntries (presentEntries l.plainEntries))) {} =
      some l := by
  rw [foldlM_fieldStep_congr fun f _ => l.isPlainTable.lookup_eq f.name]
  obtain ⟨level, file⟩ := l
  cases file <;>
    simp [logFields, optionalField, fieldStep, plainEntries, lookup_presentEntries_cons,
      RecordField.readOpt]

/-- A declared target in plain form reads back: its name and directory are there. -/
theorem TargetEntry.readTarget_plainTable (t : TargetEntry) :
    readTarget .plain (SwiftDevEnv.Config.plainTable t.plainEntries) = .ok t := by
  have hnodup : ((sortEntries (presentEntries t.plainEntries)).map (·.1.name)).Nodup :=
    t.isPlainTable.ascending.nodup
  have hneeded : ∀ f ∈ targetFields .plain, f.neededInTable = true →
      ∃ e ∈ sortEntries (presentEntries t.plainEntries), e.1.name = f.name := by
    simp only [targetFields, optionalField, List.mem_cons, List.not_mem_nil, or_false]
    rintro f (rfl | rfl | rfl | rfl) hf
    · exact ⟨(⟨"name", none⟩, plainText t.name),
        by simp [sortEntries, List.mem_mergeSort, plainEntries, presentEntries], rfl⟩
    · exact ⟨(⟨"path", none⟩, plainText t.path),
        by simp [sortEntries, List.mem_mergeSort, plainEntries, presentEntries], rfl⟩
    all_goals cases hf
  apply eq_ok_of_toOption
  rw [readTarget, plainTable_eq, readRecord_table_toOption _ _ _ _ _ _ hneeded,
    foldlM_entryStep_eq_fields (targetFields_independent .plain) hnodup,
    foldlM_fieldStep_congr fun f _ => t.isPlainTable.lookup_eq f.name]
  obtain ⟨name, path, sources, compilerArguments⟩ := t
  cases sources <;>
    simp [targetFields, optionalField, fieldStep, plainEntries, lookup_presentEntries_cons,
      RecordField.readOpt]

theorem readTargets_plain (targets : List TargetEntry) :
    readList .plain (readTarget .plain)
      (.array (targets.map fun t => SwiftDevEnv.Config.plainTable t.plainEntries) none) =
      .ok targets := by
  have hitems : ∀ ts : List TargetEntry,
      (ts.map fun t => SwiftDevEnv.Config.plainTable t.plainEntries).mapM
        (fun x => placed x.span (readTarget .plain x)) = .ok ts := by
    intro ts
    induction ts with
    | nil => rfl
    | cons t ts ih =>
      simp only [List.map_cons, List.mapM_cons, ih]
      simp only [Node.span, placed, t.readTarget_plainTable]
      rfl
  simp only [readList, Node.items?, hitems]
  rfl

end SwiftDevEnv.Config
