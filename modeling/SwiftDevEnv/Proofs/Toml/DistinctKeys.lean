import SwiftDevEnv.Toml.Document

/-!
# Every table read from a settings file has distinct keys

Within a table a key may be written once. The reader enforces it wherever it files something
into a table: a pair is refused when its key is taken, a header when it names a table already
defined, and a key of an inline table when it was written before. Here that rule is proved of
every node the reader returns: in every table of it, at every depth, no two entries share a key.

The argument has three layers. Each way of changing a table (adding an absent key, replacing or
removing the entry of a key, going down a path with `descend`) keeps the property; each step of
the document builder keeps it for the root and the table being filled; and each reading of the
grammar that returns a node returns one with the property, the loops carrying it as an invariant.
For the last layer, `Yields P g` says that whatever a reading `g` returns satisfies `P`.
-/

namespace SwiftDevEnv.Toml

/-- Every table in a node, at every depth, holds each key once. -/
inductive Node.KeysDistinct : Node → Prop
  | string (s : String) (span : Option Span) : KeysDistinct (.string s span)
  | integer (i : Int) (span : Option Span) : KeysDistinct (.integer i span)
  | float (x : Decimal.Binary64) (span : Option Span) : KeysDistinct (.float x span)
  | boolean (b : Bool) (span : Option Span) : KeysDistinct (.boolean b span)
  | datetime (d : Datetime) (span : Option Span) : KeysDistinct (.datetime d span)
  | array {items : List Node} (span : Option Span) :
      (∀ x ∈ items, KeysDistinct x) → KeysDistinct (.array items span)
  | table {entries : List (Key × Node)} (shape : Shape) (span : Option Span) :
      (entries.map (·.1.name)).Nodup → (∀ e ∈ entries, KeysDistinct e.2) →
        KeysDistinct (.table entries shape span)
  | tables {items : List Node} (span : Option Span) :
      (∀ x ∈ items, KeysDistinct x) → KeysDistinct (.tables items span)

/-- A table being built whose entries have distinct keys and distinct keys inside. -/
def Table.KeysDistinct (t : Table) : Prop := t.node.KeysDistinct

namespace Node.KeysDistinct

theorem table_iff {entries : List (Key × Node)} {shape : Shape} {span : Option Span} :
    (Node.table entries shape span).KeysDistinct ↔
      (entries.map (·.1.name)).Nodup ∧ ∀ e ∈ entries, e.2.KeysDistinct := by
  constructor
  · intro h
    cases h with
    | table _ _ hnodup hall => exact ⟨hnodup, hall⟩
  · intro ⟨hnodup, hall⟩
    exact .table shape span hnodup hall

theorem array_iff {items : List Node} {span : Option Span} :
    (Node.array items span).KeysDistinct ↔ ∀ x ∈ items, x.KeysDistinct := by
  constructor
  · intro h
    cases h with
    | array _ hall => exact hall
  · exact .array span

theorem tables_iff {items : List Node} {span : Option Span} :
    (Node.tables items span).KeysDistinct ↔ ∀ x ∈ items, x.KeysDistinct := by
  constructor
  · intro h
    cases h with
    | tables _ hall => exact hall
  · exact .tables span

theorem withSpan {n : Node} (h : n.KeysDistinct) (s : Span) : (n.withSpan s).KeysDistinct := by
  cases h <;> constructor <;> assumption

/-- One more table at the end of an array of tables. -/
theorem tables_concat {items : List Node} {x : Node} (hitems : ∀ y ∈ items, y.KeysDistinct)
    (hx : x.KeysDistinct) (span : Option Span) : (Node.tables (items ++ [x]) span).KeysDistinct := by
  refine .tables span fun y hy => ?_
  rcases List.mem_append.mp hy with hy | hy
  · exact hitems y hy
  · exact (List.mem_singleton.mp hy) ▸ hx

end Node.KeysDistinct

theorem bind_eq_ok_iff {ε α β : Type} {x : Except ε α} {f : α → Except ε β} {b : β} :
    (x >>= f) = .ok b ↔ ∃ a, x = .ok a ∧ f a = .ok b := by
  cases x <;> simp [bind, Except.bind]

/-! ## Changing a table -/

namespace Table

variable {t : Table} {name : String} {n : Node}

theorem keysDistinct_iff :
    t.KeysDistinct ↔ (t.entries.map (·.1.name)).Nodup ∧ ∀ e ∈ t.entries, e.2.KeysDistinct :=
  Node.KeysDistinct.table_iff

theorem find?_eq_none_iff : t.find? name = none ↔ name ∉ t.entries.map (·.1.name) := by
  simp [find?, List.find?_eq_none]

theorem has_eq_false_iff : t.has name = false ↔ name ∉ t.entries.map (·.1.name) := by
  simp [has]

theorem KeysDistinct.of_find? (h : t.KeysDistinct) (hn : t.find? name = some n) :
    n.KeysDistinct := by
  obtain ⟨e, he, rfl⟩ := Option.map_eq_some_iff.mp hn
  exact (keysDistinct_iff.mp h).2 e (List.mem_of_find?_eq_some he)

theorem KeysDistinct.push (h : t.KeysDistinct) {k : Key} (hk : k.name ∉ t.entries.map (·.1.name))
    (hn : n.KeysDistinct) : (t.push k n).KeysDistinct := by
  obtain ⟨hnodup, hall⟩ := keysDistinct_iff.mp h
  refine keysDistinct_iff.mpr ⟨?_, ?_⟩
  · have hnames : (t.push k n).entries.map (·.1.name) = t.entries.map (·.1.name) ++ [k.name] := by
      simp [Table.push]
    rw [hnames]
    refine List.nodup_append.mpr ⟨hnodup, by simp, fun a ha b hb hab => hk ?_⟩
    rw [List.mem_singleton] at hb
    exact hb ▸ hab ▸ ha
  · intro e he
    simp only [Table.push, List.mem_append, List.mem_singleton] at he
    rcases he with he | rfl
    · exact hall e he
    · exact hn

/-- Replacing the value of a key keeps the keys distinct: every key stays where it was. -/
theorem KeysDistinct.replace (h : t.KeysDistinct) (hn : n.KeysDistinct) :
    (t.replace name n).KeysDistinct := by
  obtain ⟨hnodup, hall⟩ := keysDistinct_iff.mp h
  have hnames : (t.replace name n).entries.map (·.1.name) = t.entries.map (·.1.name) := by
    simp only [Table.replace, List.map_map]
    apply List.map_congr_left
    intro e _
    simp only [Function.comp_apply]
    split <;> rfl
  refine keysDistinct_iff.mpr ⟨hnames ▸ hnodup, ?_⟩
  intro e he
  simp only [Table.replace, List.mem_map] at he
  obtain ⟨e', he', rfl⟩ := he
  split
  · exact hn
  · exact hall e' he'

/-- Filing a value under a key after checking that the table lacks it: whatever else refuses
the filing, what is filed keeps distinct keys. -/
theorem KeysDistinct.push_checked (h : t.KeysDistinct) {k : Key} (hn : n.KeysDistinct)
    {refuse : Bool} {e e' : TableError} {r : Table × Unit}
    (hr : (if refuse then .error e else if t.has k.name then .error e'
      else .ok (t.push k n, ()) : Except TableError (Table × Unit)) = .ok r) :
    r.1.KeysDistinct := by
  split at hr
  · cases hr
  split at hr
  · cases hr
  · rename_i hhas
    cases hr
    exact h.push (has_eq_false_iff.mp (Bool.eq_false_iff.mpr hhas)) hn

theorem KeysDistinct.remove (h : t.KeysDistinct) : (t.remove name).KeysDistinct := by
  obtain ⟨hnodup, hall⟩ := keysDistinct_iff.mp h
  refine keysDistinct_iff.mpr ⟨(List.filter_sublist.map _).nodup hnodup, ?_⟩
  intro e he
  exact hall e (List.mem_filter.mp he).1

end Table

theorem Table.empty_keysDistinct (shape : Shape) (span : Option Span) :
    (⟨[], shape, span⟩ : Table).KeysDistinct :=
  Table.keysDistinct_iff.mpr ⟨List.nodup_nil, fun _ h => nomatch h⟩

theorem implicitTable_keysDistinct (inline dotted : Bool) :
    (implicitTable inline dotted).KeysDistinct :=
  Table.empty_keysDistinct _ _

/-- Going down a path keeps distinct keys, when the change made at its end does; what the
change returns besides is passed up unchanged. -/
theorem descend_keysDistinct {α : Type} {dotted inline : Bool} {full : List Key}
    {f : Table → Except TableError (Table × α)} (Q : α → Prop)
    (hf : ∀ t r, t.KeysDistinct → f t = .ok r → r.1.KeysDistinct ∧ Q r.2) :
    ∀ (i : Nat) (path : List Key) (t : Table) (r : Table × α), t.KeysDistinct →
      descend dotted inline full f i path t = .ok r → r.1.KeysDistinct ∧ Q r.2 := by
  intro i path
  induction path generalizing i with
  | nil => exact fun t r ht hr => hf t r ht hr
  | cons k ks ih =>
    intro t r ht hr
    simp only [descend] at hr
    split at hr
    · -- the key is new: an implicit table is made for it
      rename_i hfind
      obtain ⟨c, hc, hr⟩ := bind_eq_ok_iff.mp hr
      cases hr
      have hc' := ih _ _ _ (implicitTable_keysDistinct _ _) hc
      exact ⟨ht.push (Table.find?_eq_none_iff.mp hfind) hc'.1, hc'.2⟩
    · -- the key holds a table, which is entered
      rename_i es shape sp hfind
      split at hr
      · cases hr
      split at hr
      · cases hr
      obtain ⟨c, hc, hr⟩ := bind_eq_ok_iff.mp hr
      cases hr
      have hc' := ih _ _ _ (ht.of_find? hfind) hc
      exact ⟨ht.replace hc'.1, hc'.2⟩
    · -- the key holds an array of tables, whose last table is entered
      rename_i items sp hfind
      have hitems := Node.KeysDistinct.tables_iff.mp (ht.of_find? hfind)
      split at hr
      · rename_i es shape tsp hlast
        obtain ⟨c, hc, hr⟩ := bind_eq_ok_iff.mp hr
        cases hr
        have hlastKeys : (Node.table es shape tsp).KeysDistinct :=
          hitems _ (List.mem_of_getLast? hlast)
        have hc' := ih _ ⟨es, shape, tsp⟩ _ hlastKeys hc
        exact ⟨ht.replace (.tables_concat (fun x hx => hitems x (List.dropLast_subset _ hx))
          hc'.1 _), hc'.2⟩
      · obtain ⟨c, hc, hr⟩ := bind_eq_ok_iff.mp hr
        cases hr
        have hc' := ih _ _ _ (implicitTable_keysDistinct _ _) hc
        exact ⟨ht.replace (.tables_concat hitems hc'.1 _), hc'.2⟩
    · cases hr

theorem Table.keysDistinct_with_span {t : Table} {span : Option Span} :
    ({ t with span } : Table).KeysDistinct ↔ t.KeysDistinct := by
  simp only [Table.keysDistinct_iff]

theorem Table.keysDistinct_with_shape {t : Table} {shape : Shape} {span : Option Span} :
    ({ t with shape, span } : Table).KeysDistinct ↔ t.KeysDistinct := by
  simp only [Table.keysDistinct_iff]

/-! ## Building a document -/

namespace Builder

/-- The root and the table being filled both have distinct keys. -/
def KeysDistinct (b : Builder) : Prop := b.root.KeysDistinct ∧ b.current.KeysDistinct

theorem start_keysDistinct : start.KeysDistinct :=
  ⟨Table.empty_keysDistinct _ _, Table.empty_keysDistinct _ _⟩

variable {b b' : Builder}

theorem addPair_keysDistinct {path : List Key} {k : Key} {v : Node} (hb : b.KeysDistinct)
    (hv : v.KeysDistinct) (h : b.addPair path k v = .ok b') : b'.KeysDistinct := by
  simp only [addPair] at h
  obtain ⟨r, hr, h⟩ := bind_eq_ok_iff.mp h
  cases h
  refine ⟨hb.1, (descend_keysDistinct (fun _ => True)
    (fun t r ht hr => ⟨ht.push_checked hv hr, trivial⟩) 0 path _ r ?_ hr).1⟩
  · -- the span of the table being filled may grow; its entries do not change
    split
    · exact Table.keysDistinct_with_span.mpr hb.2
    · exact hb.2

theorem file_keysDistinct {root : Table} (hb : b.KeysDistinct) (h : b.file = .ok root) :
    root.KeysDistinct := by
  simp only [file] at h
  split at h
  · cases h
    exact hb.2
  · rename_i last _
    obtain ⟨r, hr, h⟩ := bind_eq_ok_iff.mp h
    cases h
    refine (descend_keysDistinct (fun _ => True) ?_ 0 b.path.dropLast b.root r hb.1 hr).1
    intro parent r hparent hr
    have hcurrent : b.current.node.KeysDistinct := hb.2
    split at hr
    · -- the table is new under its parent
      rename_i hfind
      have habsent := Table.find?_eq_none_iff.mp hfind
      split at hr <;> cases hr
      · exact ⟨hparent.push habsent (.tables _ fun x hx => (List.mem_singleton.mp hx) ▸ hcurrent),
          trivial⟩
      · exact ⟨hparent.push habsent hcurrent, trivial⟩
    · -- one more table of an array of tables
      rename_i items _ hfind
      have hitems := Node.KeysDistinct.tables_iff.mp (hparent.of_find? hfind)
      split at hr
      · cases hr
        exact ⟨hparent.replace (.tables_concat hitems hcurrent _), trivial⟩
      · cases hr
    · -- a table that was only implicit is now defined
      split at hr
      · cases hr
        exact ⟨hparent.replace hcurrent, trivial⟩
      · cases hr
    · cases hr

/-- Opening a table by its header keeps the keys distinct, what the header takes over from an
implicit table included. -/
theorem openTable_keysDistinct {path : List Key} {span : Span} (hb : b.KeysDistinct)
    (h : b.openTable path span = .ok b') : b'.KeysDistinct := by
  simp only [openTable] at h
  obtain ⟨root, hroot, h⟩ := bind_eq_ok_iff.mp h
  have hrootKeys := file_keysDistinct hb hroot
  split at h
  case h_2 => cases h
  obtain ⟨r, hr, h⟩ := bind_eq_ok_iff.mp h
  cases h
  have hr' := descend_keysDistinct (fun taken => ∀ t, taken = some t → t.KeysDistinct) (by
      intro parent r hparent hr
      split at hr
      · cases hr
        exact ⟨hparent, fun _ h => nomatch h⟩
      · rename_i es shape sp hfind
        split at hr
        · cases hr
          refine ⟨hparent.remove, fun t ht => ?_⟩
          cases ht
          exact hparent.of_find? hfind
        · cases hr
      · cases hr) 0 path.dropLast root r hrootKeys hr
  refine ⟨hr'.1, Table.keysDistinct_with_shape.mpr ?_⟩
  cases htaken : r.2 with
  | none => exact Table.empty_keysDistinct _ _
  | some t => exact hr'.2 t htaken

theorem openArrayTable_keysDistinct {path : List Key} {span : Span} (hb : b.KeysDistinct)
    (h : b.openArrayTable path span = .ok b') : b'.KeysDistinct := by
  simp only [openArrayTable] at h
  obtain ⟨root, hroot, h⟩ := bind_eq_ok_iff.mp h
  split at h
  case h_2 => cases h
  obtain ⟨r, hr, h⟩ := bind_eq_ok_iff.mp h
  cases h
  refine ⟨(descend_keysDistinct (fun _ => True) ?_ 0 path.dropLast root r
    (file_keysDistinct hb hroot) hr).1, Table.empty_keysDistinct _ _⟩
  intro parent r hparent hr
  split at hr
  · rename_i hfind
    cases hr
    exact ⟨hparent.push (Table.find?_eq_none_iff.mp hfind) (.tables _ fun _ h => nomatch h),
      trivial⟩
  · cases hr
    exact ⟨hparent, trivial⟩
  · cases hr

end Builder

theorem map_eq_ok_iff {ε α β : Type} {x : Except ε α} {f : α → β} {b : β} :
    x.map f = .ok b ↔ ∃ a, x = .ok a ∧ f a = b := by
  cases x <;> simp [Except.map]

/-- The pairs of an inline table, gathered, give a table with distinct keys. -/
theorem inlineTableOf_keysDistinct {pairs : List (List Key × Key × Node)} {t : Table}
    (hpairs : ∀ p ∈ pairs, p.2.2.KeysDistinct) (h : Grammar.inlineTableOf pairs = .ok t) :
    t.KeysDistinct := by
  simp only [Grammar.inlineTableOf] at h
  suffices hrun : ∀ (ps : List (List Key × Key × Node)) (init : Table),
      (∀ p ∈ ps, p.2.2.KeysDistinct) → init.KeysDistinct →
      ps.foldlM (fun root (pair : List Key × Key × Node) =>
        (descend true true pair.1 (fun t =>
          if (t.shape.dotted == pair.1.isEmpty) = true then .error (.duplicateKey pair.2.1.name none)
          else if t.has pair.2.1.name = true then .error (.duplicateKey pair.2.1.name none)
          else .ok (t.push pair.2.1 pair.2.2, ())) 0 pair.1 root).map (·.1)) init = .ok t →
      t.KeysDistinct from
    hrun pairs _ hpairs (Table.empty_keysDistinct _ _) h
  intro ps
  induction ps with
  | nil =>
    intro init _ hinit h
    cases h
    exact hinit
  | cons p ps ih =>
    intro init hps hinit h
    simp only [List.foldlM_cons] at h
    obtain ⟨next, hnext, h⟩ := bind_eq_ok_iff.mp h
    obtain ⟨r, hr, rfl⟩ := map_eq_ok_iff.mp hnext
    refine ih _ (fun q hq => hps q (List.mem_cons_of_mem p hq)) ?_ h
    exact (descend_keysDistinct (fun _ => True)
      (fun t r ht hr => ⟨ht.push_checked (hps p List.mem_cons_self) hr, trivial⟩)
      0 p.1 init r hinit hr).1

/-! ## What a reading returns -/

namespace Grammar

/-- Whatever `g` returns, on any text and from any position, satisfies `P`. -/
def Yields {α : Type} (P : α → Prop) (g : Grammar α) : Prop :=
  ∀ bytes pos a pos', (g.run bytes).run pos = .ok (a, pos') → P a

section Yields

variable {α β : Type} {P : α → Prop} {Q : β → Prop}

theorem yields_true (g : Grammar α) : Yields (fun _ => True) g := fun _ _ _ _ _ => trivial

theorem yields_pure {a : α} (h : P a) : Yields P (pure a) := by
  intro bytes pos b pos' hb
  cases hb
  exact h

theorem yields_bind {g : Grammar β} {f : β → Grammar α} (hg : Yields Q g)
    (hf : ∀ b, Q b → Yields P (f b)) : Yields P (g >>= f) := by
  intro bytes pos a pos' ha
  simp only [ReaderT.run_bind, StateT.run_bind] at ha
  cases hgb : (g.run bytes).run pos with
  | error e => simp [hgb] at ha; cases ha
  | ok r =>
    rw [hgb] at ha
    exact hf r.1 (hg bytes pos r.1 r.2 hgb) bytes r.2 a pos' ha

theorem yields_throw (e : Failure) : Yields P (throw e : Grammar α) := by
  intro bytes pos a pos' ha
  cases ha

theorem yields_tryCatch {g : Grammar α} {h : Failure → Grammar α} (hg : Yields P g)
    (hh : ∀ e, Yields P (h e)) : Yields P (tryCatch g h) := by
  intro bytes pos a pos' ha
  simp only [tryCatch, ReaderT.run, StateT.run, tryCatchThe, MonadExcept.tryCatch,
    MonadExceptOf.tryCatch] at ha
  cases hga : g bytes pos with
  | error e =>
    rw [hga] at ha
    exact hh e bytes pos a pos' ha
  | ok r =>
    rw [hga] at ha
    cases ha
    exact hg bytes pos a pos' hga

theorem yields_map {f : β → α} {g : Grammar β} (hg : Yields Q g) (hf : ∀ b, Q b → P (f b)) :
    Yields P (f <$> g) := by
  rw [map_eq_pure_bind]
  exact yields_bind hg fun b hb => yields_pure (hf b hb)

theorem yields_within {c : Context} {g : Grammar α} (hg : Yields P g) : Yields P (within c g) :=
  yields_tryCatch hg fun _ => yields_throw _

theorem yields_commit {g : Grammar α} (hg : Yields P g) : Yields P (commit g) :=
  yields_tryCatch hg fun _ => yields_throw _

theorem yields_orElse {g h : Grammar α} (hg : Yields P g) (hh : Yields P h) :
    Yields P (orElse g h) := by
  refine yields_tryCatch hg fun e => ?_
  split
  · exact yields_throw _
  · exact hh

/-- What an optional reading returns, if anything, satisfies what the reading does. -/
theorem yields_optional {g : Grammar α} (hg : Yields P g) :
    Yields (fun o => ∀ a, o = some a → P a) (optional g) := by
  refine yields_tryCatch (yields_map hg fun a ha b hb => Option.some.inj hb ▸ ha) fun e => ?_
  split
  · exact yields_throw _
  · exact yields_pure fun _ h => nomatch h

/-- A loop keeps an invariant that each round keeps, whether it goes on or stops. -/
theorem yields_forIn_list (I : α → Prop) (xs : List Nat) {init : α}
    {f : Nat → α → Grammar (ForInStep α)} (hinit : I init)
    (hf : ∀ x a, I a → Yields (fun s => I s.value) (f x a)) : Yields I (forIn xs init f) := by
  induction xs generalizing init with
  | nil => exact yields_pure hinit
  | cons x xs ih =>
    rw [List.forIn_cons]
    refine yields_bind (hf x init hinit) fun s hs => ?_
    cases s with
    | done a => exact yields_pure hs
    | yield a => exact ih hs

theorem yields_forIn_range (I : α → Prop) (r : Std.Legacy.Range) {init : α}
    {f : Nat → α → Grammar (ForInStep α)} (hinit : I init)
    (hf : ∀ x a, I a → Yields (fun s => I s.value) (f x a)) : Yields I (forIn r init f) := by
  rw [Std.Legacy.Range.forIn_eq_forIn_range']
  exact yields_forIn_list I _ hinit hf

/-- A refusal to file turns into a failure; what is filed satisfies what the filing does. -/
theorem yields_filed {start : Nat} {e : Except TableError α} (he : ∀ a, e = .ok a → P a) :
    Yields P (filed start e) := by
  unfold filed
  split
  · exact yields_pure (he _ rfl)
  · exact yields_throw _

end Yields

section Readings

variable {α : Type} {P : α → Prop}

/-- Every item of a separated run satisfies what the item reading does. -/
theorem yields_separated {g : Grammar α} {sep : Grammar Unit} (hg : Yields P g) :
    Yields (fun xs => ∀ x ∈ xs, P x) (separated g sep) := by
  unfold separated
  refine yields_bind (yields_optional hg) fun first hfirst => ?_
  split
  · exact yields_pure fun _ h => nomatch h
  · rename_i a
    refine yields_bind (yields_true _) fun _ _ => ?_
    refine yields_bind (yields_forIn_range (fun xs => ∀ x ∈ xs, P x) _ ?_ ?_)
      fun xs hxs => yields_pure hxs
    · intro x hx
      rw [List.mem_singleton.mp hx]
      exact hfirst a rfl
    · intro _ acc hacc
      refine yields_bind (yields_optional (yields_bind (yields_true _) fun _ _ => hg))
        fun next hnext => ?_
      split
      · rename_i b
        refine yields_pure fun x hx => ?_
        rcases List.mem_append.mp hx with hx | hx
        · exact hacc x hx
        · exact (List.mem_singleton.mp hx) ▸ hnext b rfl
      · exact yields_pure hacc

/-- Every item of an array satisfies what the item reading does. -/
theorem yields_array {item : Grammar Node} {P : Node → Prop} (hitem : Yields P item) :
    Yields (fun xs => ∀ x ∈ xs, P x) (array item) := by
  unfold array
  refine yields_bind (yields_true _) fun _ _ => ?_
  refine yields_bind (yields_commit ?_) fun items hitems =>
    yields_bind (yields_true _) fun _ _ => yields_pure hitems
  refine yields_bind (yields_true _) fun _ _ => ?_
  split
  · exact yields_pure fun _ h => nomatch h
  · refine yields_bind (yields_separated (yields_bind (yields_true _) fun _ _ =>
      yields_bind hitem fun v hv => yields_bind (yields_true _) fun _ _ => yields_pure hv))
      fun items hitems => ?_
    have hend : Yields (fun xs => ∀ x ∈ xs, P x) (do blanksAndBreaks; pure items) :=
      yields_bind (yields_true _) fun _ _ => yields_pure hitems
    dsimp only
    split
    · exact yields_bind (yields_true _) fun _ _ => hend
    · exact hend

theorem yields_fail : Yields P (fail : Grammar α) :=
  yields_bind (yields_true _) fun _ _ => yields_throw _

/-- The entries of an inline table have distinct keys, when its values do. -/
theorem yields_inlineTable {item : Grammar Node} (hitem : Yields Node.KeysDistinct item) :
    Yields (fun es => (es.map (·.1.name)).Nodup ∧ ∀ e ∈ es, e.2.KeysDistinct)
      (inlineTable item) := by
  unfold inlineTable
  dsimp only
  refine yields_bind (yields_true _) fun _ _ => yields_bind (yields_true _) fun start _ => ?_
  refine yields_bind (yields_commit ?_) fun t ht =>
    yields_bind (yields_true _) fun _ _ => yields_pure (Table.keysDistinct_iff.mp ht)
  refine yields_bind (yields_separated
    (?_ : Yields (fun (p : List Key × Key × Node) => p.2.2.KeysDistinct) _)) fun pairs hpairs =>
      yields_bind (yields_true _) fun _ _ => ?_
  · -- each pair's value comes from the item reading
    exact yields_bind (yields_true key) fun keys _ => yields_commit
      (yields_bind (yields_true _) fun _ _ => yields_bind (yields_true _) fun _ _ =>
        yields_bind hitem fun v hv => yields_bind (yields_true _) fun _ _ => yields_pure hv)
  split
  · rename_i t ht
    exact yields_pure (inlineTableOf_keysDistinct hpairs ht)
  · exact yields_throw _

/-- Every value a scalar reading builds is a leaf. -/
theorem yields_scalar (first : UInt8) : Yields Node.KeysDistinct (scalar first) := by
  have leaf : ∀ {β : Type} (g : Grammar β) (f : β → Node), (∀ b, (f b).KeysDistinct) →
      Yields Node.KeysDistinct (g >>= fun b => pure (f b)) :=
    fun g _ hf => yields_bind (yields_true g) fun b _ => yields_pure (hf b)
  have asText : ∀ g, Yields Node.KeysDistinct g → Yields Node.KeysDistinct (asString g) :=
    fun _ hg => yields_within (yields_within (yields_within hg))
  unfold scalar
  dsimp only
  split
  · exact leaf _ _ fun _ => .string _ _
  split
  · exact yields_orElse (leaf _ _ fun _ => .datetime _ _)
      (yields_orElse (leaf _ _ fun _ => .float _ _) (leaf _ _ fun _ => .integer _ _))
  split
  · exact yields_within (leaf _ _ fun _ => .integer _ _)
  split
  · exact yields_within (leaf _ _ fun _ => .float _ _)
  split
  · exact asText _ (leaf _ _ fun _ => .boolean _ _)
  split
  · exact asText _ (leaf _ _ fun _ => .boolean _ _)
  split
  · exact asText _ (leaf _ _ fun _ => .float _ _)
  split
  · exact asText _ (leaf _ _ fun _ => .float _ _)
  · exact asText _ yields_fail

/-- A value read at any depth has distinct keys in every table of it. -/
theorem yields_value : ∀ room, Yields Node.KeysDistinct (value room)
  | 0 => by
    unfold value
    refine yields_bind (yields_true _) fun a _ => yields_bind (yields_true _) fun first _ => ?_
    split
    · rename_i b
      have hspan := yields_bind (yields_scalar b) fun n hn =>
        yields_bind (yields_true pos) fun p _ => yields_pure (hn.withSpan ⟨a, p⟩)
      dsimp only
      split
      · exact yields_bind (yields_true _) fun _ _ => hspan
      · exact hspan
    · exact yields_fail
  | room + 1 => by
    unfold value
    refine yields_bind (yields_true _) fun a _ => yields_bind (yields_true _) fun first _ => ?_
    have hspan : ∀ g : Grammar Node, Yields Node.KeysDistinct g →
        Yields Node.KeysDistinct (do let n ← g; let p ← pos; pure (n.withSpan ⟨a, p⟩)) :=
      fun g hg => yields_bind hg fun n hn =>
        yields_bind (yields_true pos) fun p _ => yields_pure (hn.withSpan ⟨a, p⟩)
    split
    · split
      · exact yields_bind (yields_array (yields_value room)) fun items hitems =>
          hspan _ (yields_pure (.array _ hitems))
      split
      · exact yields_bind (yields_inlineTable (yields_value room)) fun es hes =>
          hspan _ (yields_pure (.table _ _ hes.1 hes.2))
      · exact hspan _ (yields_scalar _)
    · exact yields_fail

theorem yields_pairLine {b : Builder} (hb : b.KeysDistinct) :
    Yields Builder.KeysDistinct (pairLine b) := by
  unfold pairLine
  refine yields_bind (yields_true _) fun _ _ => yields_bind (yields_true _) fun _ _ => ?_
  refine yields_bind (yields_commit (yields_bind (yields_true _) fun _ _ =>
    yields_bind (yields_true _) fun _ _ => yields_bind (yields_value _) fun v hv =>
      yields_bind (yields_true _) fun _ _ => yields_pure hv)) fun v hv => ?_
  exact yields_filed fun _ h => Builder.addPair_keysDistinct hb hv h

theorem yields_headerLine {b : Builder} (hb : b.KeysDistinct) :
    Yields Builder.KeysDistinct (headerLine b) := by
  unfold headerLine
  refine yields_within ?_
  refine yields_bind (yields_true _) fun _ _ => yields_bind (yields_true _) fun _ _ => ?_
  split
  · refine yields_bind (yields_true _) fun inArray _ => ?_
    refine yields_bind (yields_true _) fun _ _ => yields_bind (yields_true _) fun _ _ => ?_
    refine yields_bind (yields_true _) fun _ _ => yields_bind (yields_true _) fun _ _ => ?_
    refine yields_bind (yields_true _) fun _ _ => ?_
    split
    · exact yields_filed fun _ h => Builder.openArrayTable_keysDistinct hb h
    · exact yields_filed fun _ h => Builder.openTable_keysDistinct hb h
  · exact yields_fail

/-- The builder a document reading ends with has distinct keys in its root and its open table: each
line keeps them, and the loop over the lines carries them. A byte order mark is skipped first, and
the rest is read the same either way. -/
theorem yields_document : Yields Builder.KeysDistinct document := by
  unfold document
  dsimp only
  refine yields_bind (yields_true _) fun _ _ => ?_
  split
  all_goals
    try refine yields_bind (yields_true (advance 3)) fun _ _ => ?_
    refine yields_bind (yields_true _) fun _ _ => yields_bind (yields_true _) fun _ _ => ?_
    refine yields_bind (yields_forIn_range Builder.KeysDistinct _ Builder.start_keysDistinct ?_)
      fun b hb => yields_bind (yields_true _) fun _ _ => yields_pure hb
    intro _ b hb
    refine yields_bind (yields_true _) fun _ _ => ?_
    split
    · split
      · -- a comment line
        exact yields_bind (yields_true _) fun _ _ => yields_bind (yields_true _) fun _ _ =>
          yields_pure hb
      split
      · -- a header line
        exact yields_bind (yields_commit (yields_headerLine hb)) fun b' hb' =>
          yields_bind (yields_true _) fun _ _ => yields_pure hb'
      split
      · -- a blank line, or the end
        refine yields_bind (yields_true _) fun _ _ => ?_
        split
        · exact yields_pure hb
        · exact yields_bind (yields_true _) fun _ _ => yields_pure hb
      · -- a pair line
        exact yields_bind (yields_commit (yields_pairLine hb)) fun b' hb' =>
          yields_bind (yields_true _) fun _ _ => yields_pure hb'
    · exact yields_pure hb

end Readings

end Grammar

/-- Every table of a document read from a text, at every depth, has each key once. -/
theorem parse_keysDistinct {text : String} {root : Node} (h : parse text = .ok root) :
    root.KeysDistinct := by
  unfold parse at h
  dsimp only at h
  split at h
  · cases h
  · rename_i b _ hdoc
    split at h
    · rename_i table hfile
      cases h
      exact Builder.file_keysDistinct (Grammar.yields_document _ _ b _ hdoc) hfile
    · cases h

/-! ## The plain value -/

theorem plainItems_eq_map (items : List Node) : plainItems items = items.map Node.plain := by
  induction items with
  | nil => rfl
  | cons n rest ih => simp [plainItems, ih]

theorem plainEntries_eq_map (entries : List (Key × Node)) :
    plainEntries entries = entries.map fun e => (⟨e.1.name, none⟩, e.2.plain) := by
  induction entries with
  | nil => rfl
  | cons e rest ih => simp [plainEntries, ih]

theorem sortEntries_perm (entries : List (Key × Node)) : (sortEntries entries).Perm entries :=
  List.mergeSort_perm _ _

/-- Dropping ranges and sorting keys keeps every table's keys distinct. -/
theorem Node.KeysDistinct.plain {n : Node} (h : n.KeysDistinct) : n.plain.KeysDistinct := by
  induction h with
  | string s span => exact .string s none
  | integer i span => exact .integer i none
  | float x span => exact .float x none
  | boolean b span => exact .boolean b none
  | datetime d span => exact .datetime d none
  | array span _ ih =>
    simp only [Node.plain, plainItems_eq_map]
    exact .array _ fun x hx => by
      obtain ⟨y, hy, rfl⟩ := List.mem_map.mp hx
      exact ih y hy
  | tables span _ ih =>
    simp only [Node.plain, plainItems_eq_map]
    exact .array _ fun x hx => by
      obtain ⟨y, hy, rfl⟩ := List.mem_map.mp hx
      exact ih y hy
  | @table entries shape span hnodup _ ih =>
    simp only [Node.plain, plainEntries_eq_map]
    have hperm := sortEntries_perm
      (entries.map fun e : Key × Node => ((⟨e.1.name, none⟩ : Key), e.2.plain))
    refine .table _ _ ?_ fun e he => ?_
    · rw [(hperm.map _).nodup_iff, List.map_map]
      exact hnodup
    · obtain ⟨e', he', rfl⟩ := List.mem_map.mp (hperm.mem_iff.mp he)
      exact ih e' he'

end SwiftDevEnv.Toml
