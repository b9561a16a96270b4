import Mathlib
import SwiftDevEnv.Proofs.Text.Utf8
import SwiftDevEnv.Proofs.Wire.Chunking
import SwiftDevEnv.Proofs.Wire.Frame
import SwiftDevEnv.Wire.Request

/-!
# Request frames read back whole

A request goes to the backend as its id line followed by its payload, and a backend that echoes
its input sends that frame back. The frame is read back whole, under every chunking, when the
terminator occurs in it only at its end. That holds of every payload the builders make, whatever
paths, texts, arguments and names they are given. String values are JSON literals, whose escapes
leave no line feed in them; the layout's own line feeds are each followed by a blank or a brace,
except the last. So before its last byte a payload has no two line feeds in a row, and neither
has its frame, while the terminator ends with two.

The main statement follows a built payload along the wire. Its text begins with the entry naming
its kind, ends with the terminator and holds the terminator nowhere else. Its frame splits into
its id and its payload. Fed back in any chunking into a table where its request waits with
nothing accumulated, it completes on its last byte only, and the request's receiver gets the
payload's text.
-/

namespace SwiftDevEnv.Wire

open SwiftDevEnv.Text SwiftDevEnv.Json

/-! ## Line feeds in a text -/

/-- Text with no line feed at either end and no two line feeds in a row. -/
def Spaced (cs : List Char) : Prop :=
  cs.IsChain (NotBoth '\n') ∧ cs.head? ≠ some '\n' ∧ cs.getLast? ≠ some '\n'

instance : DecidablePred Spaced := fun _ => inferInstanceAs (Decidable (_ ∧ _ ∧ _))

/-- Text without a line feed is spaced. -/
theorem spaced_of_forall_ne {cs : List Char} (h : ∀ c ∈ cs, c ≠ '\n') : Spaced cs :=
  ⟨List.isChain_iff_forall_rel_of_append_cons_cons.mpr fun a _ _ _ he => .inl (h a (by simp [he])),
    fun hc => h '\n' (List.mem_of_mem_head? hc) rfl, fun hc => h '\n' (List.mem_of_getLast? hc) rfl⟩

/-- Two spaced texts written one after the other are spaced. -/
theorem Spaced.append {a b : List Char} (ha : Spaced a) (hb : Spaced b) : Spaced (a ++ b) := by
  obtain ⟨ha, hah, hal⟩ := ha
  obtain ⟨hb, hbh, hbl⟩ := hb
  refine ⟨isChain_notBoth_append ha hb (.inl hal), ?_, ?_⟩
  · rw [List.head?_append]
    cases h : a.head? with
    | none => simpa using hbh
    | some x => simpa [h] using hah
  · rw [List.getLast?_append]
    cases h : b.getLast? with
    | none => simpa using hal
    | some x => simpa [h] using hbl

/-- Two non-empty spaced texts joined by a separator with no two line feeds in a row are
spaced. -/
theorem Spaced.glue {a sep b : List Char} (ha : Spaced a) (ha0 : a ≠ [])
    (hsep : sep.IsChain (NotBoth '\n')) (hb : Spaced b) (hb0 : b ≠ []) : Spaced (a ++ sep ++ b) := by
  obtain ⟨ha, hah, hal⟩ := ha
  obtain ⟨hb, hbh, hbl⟩ := hb
  have hleft := isChain_notBoth_append ha hsep (.inl hal)
  refine ⟨isChain_notBoth_append hleft hb (.inr hbh), ?_, ?_⟩
  · rwa [List.append_assoc, List.head?_append_of_ne_nil _ ha0]
  · rwa [List.getLast?_append_of_ne_nil _ hb0]

/-- Non-empty spaced texts joined by a separator with no two line feeds in a row are spaced,
and not empty when there is one. -/
theorem spaced_intercalate {sep : List Char} (hsep : sep.IsChain (NotBoth '\n')) :
    ∀ {ls : List (List Char)}, (∀ l ∈ ls, Spaced l ∧ l ≠ []) →
      Spaced (sep.intercalate ls) ∧ (ls ≠ [] → sep.intercalate ls ≠ [])
  | [], _ => ⟨spaced_of_forall_ne (by simp), by simp⟩
  | [l], h => by simpa using h l (by simp)
  | l :: l' :: ls, h => by
    have hl := h l (by simp)
    have hrest := @spaced_intercalate sep hsep (l' :: ls) fun m hm => h m (by simp [hm])
    rw [List.intercalate_cons_cons]
    exact ⟨hl.1.glue hl.2 hsep hrest.1 (hrest.2 (by simp)), by simp [hl.2]⟩

/-! ## Values -/

/-- No escaped character is a line feed: the line feed itself is written as a backslash and
`n`, and other controls as `\u00XX` with hexadecimal digits. -/
theorem lineFeed_not_mem_escapeChar (c : Char) : '\n' ∉ escapeChar c := by
  have hhex : ∀ n < 16, hexDigit n ≠ '\n' := by decide
  unfold escapeChar
  split_ifs with h₁ h₂ h₃ h₄ h₅ h₆ h₇ h₈
  all_goals simp only [List.mem_cons, List.not_mem_nil, or_false, not_or]
  all_goals first
    | decide
    | exact Ne.symm h₃
    | exact ⟨by decide, by decide, by decide, by decide,
        Ne.symm (hhex _ (by omega)), Ne.symm (hhex _ (by omega))⟩

/-- A JSON string literal is a non-empty text without a line feed. -/
theorem spaced_quote (s : String) : Spaced (quote s).toList ∧ (quote s).toList ≠ [] := by
  refine ⟨spaced_of_forall_ne fun c hc => ?_, by simp [quote]⟩
  simp only [quote, String.toList_ofList, List.mem_cons, List.mem_append, List.mem_flatMap,
    List.not_mem_nil, or_false] at hc
  rcases hc with rfl | ⟨d, -, hd⟩ | rfl
  · decide
  · exact fun h => lineFeed_not_mem_escapeChar d (h ▸ hd)
  · decide

/-- The decimal text of a number is a non-empty text of digits. -/
theorem spaced_toString (n : Nat) : Spaced (toString n).toList ∧ (toString n).toList ≠ [] := by
  rw [Nat.toString_eq_ofList_toDigits, String.toList_ofList]
  refine ⟨spaced_of_forall_ne fun c hc h => ?_, Nat.toDigits_ne_nil⟩
  have := toNat_of_isDigit (Nat.isDigit_of_mem_toDigits (by decide) (by decide) hc)
  simp [h] at this

/-- A JSON array of string literals is a non-empty text without a line feed. -/
theorem spaced_stringArray (values : List String) :
    Spaced (stringArray values).toList ∧ (stringArray values).toList ≠ [] := by
  have hitems := @spaced_intercalate [','] (List.isChain_singleton _)
    ((values.map quote).map String.toList) (by simpa using fun v _ => spaced_quote v)
  refine ⟨?_, by simp [stringArray]⟩
  simp only [stringArray, String.toList_append, String.toList_intercalate]
  exact ((show Spaced ['['] by decide).append hitems.1).append (show Spaced [']'] by decide)

/-! ## Payloads -/

/-- A text that ends with a line feed, before which it neither starts with a line feed nor has
two in a row. -/
def BlankFree (s : String) : Prop :=
  ∃ cs : List Char, s.toList = cs ++ ['\n'] ∧ cs.IsChain (NotBoth '\n') ∧ cs.head? ≠ some '\n'

/-- Bytes with no two 10s in a row, then one more 10, hold the terminator at most as their
end. -/
theorem terminatorOnlyAtEnd_append_ten {bytes : List UInt8} (h : bytes.IsChain (NotBoth 10)) :
    TerminatorOnlyAtEnd (bytes ++ [10]) := by
  intro u v he
  by_contra hv
  have hdrop : bytes = (u ++ [125]) ++ 10 :: 10 :: v.dropLast := by
    have := congrArg List.dropLast he
    rw [List.dropLast_concat, List.dropLast_append_of_ne_nil hv] at this
    simpa [terminator] using this
  rw [hdrop, List.isChain_append_cons_cons] at h
  exact absurd h.2.1 (by decide)

/-- The bytes of a blank-free text hold the terminator at most as their end. -/
theorem BlankFree.terminatorOnlyAtEnd {s : String} (h : BlankFree s) :
    TerminatorOnlyAtEnd (utf8Bytes s) := by
  obtain ⟨cs, hs, hchain, -⟩ := h
  have hbytes : utf8Bytes s = cs.flatMap String.utf8EncodeChar ++ [10] := by
    rw [utf8Bytes_eq_flatMap, hs, List.flatMap_append]
    rfl
  rw [hbytes]
  exact terminatorOnlyAtEnd_append_ten (isChain_flatMap_utf8EncodeChar hchain)

/-- An id line before a blank-free text leaves it blank-free. -/
theorem BlankFree.idLine {s : String} (h : BlankFree s) (id : Nat) : BlankFree (idLine id ++ s) := by
  obtain ⟨cs, hs, hchain, hhead⟩ := h
  obtain ⟨⟨hdigits, hfirst, hlast⟩, hne⟩ := spaced_toString id
  refine ⟨(toString id).toList ++ '\n' :: cs, by simp [Wire.idLine, hs], ?_, ?_⟩
  · -- the digits, the line feed, then the text, which does not start with one
    exact isChain_notBoth_append hdigits
      (isChain_notBoth_append (List.isChain_singleton '\n') hchain (.inr hhead)) (.inl hlast)
  · rwa [List.head?_append_of_ne_nil _ hne]

/-- An entry line is a non-empty spaced text when its key and value are spaced. -/
theorem spaced_entryLine {k v : String} (hk : Spaced k.toList) (hv : Spaced v.toList) :
    Spaced ("  " ++ k ++ ": " ++ v).toList ∧ ("  " ++ k ++ ": " ++ v).toList ≠ [] := by
  simp only [String.toList_append]
  exact ⟨(((show Spaced "  ".toList by decide).append hk).append
    (show Spaced ": ".toList by decide)).append hv, by simp⟩

/-- The entry lines of a payload, the first naming its kind. -/
def entryLines (kind : RequestKind) (entries : List (String × String)) : List (List Char) :=
  (("key.request", kind.wireName) :: entries).map fun e => ("  " ++ e.1 ++ ": " ++ e.2).toList

/-- The text of a payload: a brace and a line feed, the entry lines joined by a comma and a line
feed, then a line feed and the terminator. -/
theorem build_text (kind : RequestKind) (entries : List (String × String)) :
    (Payload.build kind entries).text.toList =
      '\x7b' :: '\n' :: List.intercalate [',', '\n'] (entryLines kind entries) ++
        ['\n', '\x7d', '\n', '\n'] := by
  simp [Payload.build, entryLines, List.map_map, Function.comp_def]

/-- The name of a request kind is spaced. -/
theorem spaced_wireName (kind : RequestKind) : Spaced kind.wireName.toList := by
  cases kind <;> decide

/-- The entry lines of a payload whose keys and values are spaced are non-empty spaced texts. -/
theorem spaced_entryLines (kind : RequestKind) {entries : List (String × String)}
    (h : ∀ e ∈ entries, Spaced e.1.toList ∧ Spaced e.2.toList) :
    ∀ l ∈ entryLines kind entries, Spaced l ∧ l ≠ [] := by
  simp only [entryLines, List.mem_map, List.mem_cons]
  rintro _ ⟨e, he, rfl⟩
  rcases he with rfl | he
  · exact spaced_entryLine (show Spaced "key.request".toList by decide) (spaced_wireName kind)
  · exact spaced_entryLine (h e he).1 (h e he).2

/-- A payload whose keys and values are spaced is blank-free. -/
theorem build_blankFree (kind : RequestKind) {entries : List (String × String)}
    (h : ∀ e ∈ entries, Spaced e.1.toList ∧ Spaced e.2.toList) :
    BlankFree (Payload.build kind entries).text := by
  obtain ⟨hbody, hbody0⟩ :=
    spaced_intercalate (show [',', '\n'].IsChain (NotBoth '\n') by decide) (spaced_entryLines kind h)
  have hinner : Spaced (['\x7b'] ++ ['\n'] ++ List.intercalate [',', '\n'] (entryLines kind entries) ++
      ['\n'] ++ ['\x7d']) :=
    ((show Spaced ['\x7b'] by decide).glue (by simp) (List.isChain_singleton '\n') hbody
      (hbody0 (by simp [entryLines]))).glue (by simp) (List.isChain_singleton '\n')
        (show Spaced ['\x7d'] by decide) (by simp)
  refine ⟨['\x7b'] ++ ['\n'] ++ List.intercalate [',', '\n'] (entryLines kind entries) ++ ['\n'] ++
    ['\x7d'] ++ ['\n'], by simp [build_text], ?_, by simp⟩
  exact isChain_notBoth_append hinner.1 (List.isChain_singleton _) (.inl hinner.2.2)

/-- The first of texts joined by a separator starts the joined text. -/
theorem prefix_intercalate_cons (sep l : List Char) (ls : List (List Char)) :
    l <+: sep.intercalate (l :: ls) := by
  cases ls with
  | nil => simp
  | cons l' ls =>
    rw [List.intercalate_cons_cons, List.append_assoc]
    exact List.prefix_append _ _

/-- A payload's text begins with the entry naming its kind. -/
theorem build_prefix (kind : RequestKind) (entries : List (String × String)) :
    ("\x7b\n  key.request: " ++ kind.wireName).toList <+: (Payload.build kind entries).text.toList := by
  have hline : ("\x7b\n  key.request: " ++ kind.wireName).toList =
      '\x7b' :: '\n' :: ("  " ++ "key.request" ++ ": " ++ kind.wireName).toList := by
    simp
  rw [hline, build_text]
  exact (List.cons_prefix_cons.mpr ⟨rfl, List.cons_prefix_cons.mpr ⟨rfl,
    prefix_intercalate_cons _ _ _⟩⟩).trans (List.prefix_append _ _)

/-- A payload's text ends with the terminator. -/
theorem build_suffix (kind : RequestKind) (entries : List (String × String)) :
    "\x7d\n\n".toList <:+ (Payload.build kind entries).text.toList := by
  rw [build_text]
  exact (show "\x7d\n\n".toList <:+ ['\n', '\x7d', '\n', '\n'] by decide).trans (List.suffix_append _ _)

/-! ## The builders -/

/-- The payloads the request builders make, with any arguments. -/
inductive Built : Payload → Prop
  | source (kind : RequestKind) (path : String) (offset : Nat) (args : List String)
      (text : String) : Built (sourceRequest kind path offset args text)
  | demangle (names : List String) : Built (demangleRequest names)
  | editorOpen (path text : String) (args : List String) : Built (editorOpenRequest path text args)
  | formatText (path : String) (line : Nat) (options : FormatOptions) :
      Built (formatTextRequest path line options)

/-- Every built payload is the layout of its kind and entries. -/
theorem Built.exists_build {p : Payload} (hp : Built p) :
    ∃ entries, p = Payload.build p.kind entries := by
  cases hp <;> exact ⟨_, rfl⟩

/-- The indentation block of the format options is spaced. -/
theorem spaced_formatOptions (indent tab : Nat) (useTabs : Bool) :
    Spaced ("\x7b\n    key.editor.format.indentwidth: " ++ toString indent ++
      ",\n    key.editor.format.tabwidth: " ++ toString tab ++
      ",\n    key.editor.format.usetabs: " ++ (if useTabs then "1" else "0") ++ "\n  \x7d").toList := by
  simp only [String.toList_append, List.append_assoc]
  refine (show Spaced _ by decide).append ((spaced_toString indent).1.append
    ((show Spaced _ by decide).append ((spaced_toString tab).1.append
      ((show Spaced _ by decide).append ?_))))
  cases useTabs <;> decide

/-- Every built payload is blank-free. -/
theorem Built.blankFree {p : Payload} (hp : Built p) : BlankFree p.text := by
  cases hp with
  | source kind path offset args text =>
    refine build_blankFree kind ?_
    simp only [List.mem_cons, List.not_mem_nil, or_false, forall_eq_or_imp, forall_eq]
    exact ⟨⟨by decide, (spaced_quote path).1⟩, ⟨by decide, (spaced_toString offset).1⟩,
      ⟨by decide, (spaced_stringArray args).1⟩, ⟨by decide, (spaced_quote text).1⟩⟩
  | demangle names =>
    refine build_blankFree .demangle ?_
    simp only [List.mem_cons, List.not_mem_nil, or_false, forall_eq]
    exact ⟨by decide, (spaced_stringArray names).1⟩
  | editorOpen path text args =>
    refine build_blankFree .editorOpen ?_
    simp only [List.mem_cons, List.not_mem_nil, or_false, forall_eq_or_imp, forall_eq]
    exact ⟨⟨by decide, (spaced_quote path).1⟩, ⟨by decide, (spaced_quote text).1⟩,
      ⟨by decide, (spaced_stringArray args).1⟩⟩
  | formatText path line options =>
    refine build_blankFree .editorFormatText ?_
    simp only [List.mem_cons, List.not_mem_nil, or_false, forall_eq_or_imp, forall_eq]
    exact ⟨⟨by decide, (spaced_quote path).1⟩, ⟨by decide, (spaced_toString line).1⟩,
      ⟨by decide, by decide⟩, ⟨by decide, spaced_formatOptions _ _ _⟩⟩

/-! ## Along the wire -/

/-- The payload of a text's bytes is the text. -/
theorem payloadAnswer_utf8Bytes (s : String) : SlotTable.payloadAnswer (utf8Bytes s) = .ok s := by
  simp [SlotTable.payloadAnswer, decode_utf8Bytes]

/-- The bytes of a text that ends with the terminator's characters form a whole frame. -/
theorem isCompleteFrame_utf8Bytes {s : String} (h : "\x7d\n\n".toList <:+ s.toList) :
    isCompleteFrame (utf8Bytes s) = true := by
  obtain ⟨pre, hpre⟩ := h
  have hterm : "\x7d\n\n".toList.flatMap String.utf8EncodeChar = terminator := by decide
  rw [isCompleteFrame, List.isSuffixOf_iff_suffix, utf8Bytes_eq_flatMap, ← hpre, List.flatMap_append,
    hterm]
  exact List.suffix_append _ _

/-- Every request payload a builder makes, with any arguments: its text begins with the entry
naming its kind, ends with the terminator and holds it nowhere else. For every 64-bit id its
frame splits into that id and the payload, and fed back in any chunking whose last chunk is not
empty into a table where the request waits with nothing accumulated, every chunk but the last
reports no answer and the last answers the request with the payload's text, emptying its
slot. -/
theorem built_request_frames_read_back {p : Payload} (hp : Built p) :
    ("\x7b\n  key.request: " ++ p.kind.wireName).toList <+: p.text.toList ∧
    "\x7d\n\n".toList <:+ p.text.toList ∧
    TerminatorOnlyAtEnd (utf8Bytes p.text) ∧
    ∀ id, id < Nat.pow 2 64 →
      splitFrame (utf8Bytes (idLine id) ++ utf8Bytes p.text) = .ok (id, utf8Bytes p.text) ∧
      ∀ {ρ : Type} (t : SlotTable ρ) (r : ρ), t.buffer = [] → t.slots (slotOf id) = some ⟨id, r⟩ →
        ∀ cs c, c ≠ [] → (cs ++ [c]).flatten = utf8Bytes (idLine id) ++ utf8Bytes p.text →
          t.feedAll (cs ++ [c]) = (t.setSlot (slotOf id) none,
            List.replicate cs.length (.ok none) ++ [.ok (some id)], [⟨r, id, .ok p.text⟩]) := by
  obtain ⟨entries, hentries⟩ := hp.exists_build
  have hbegins : ("\x7b\n  key.request: " ++ p.kind.wireName).toList <+: p.text.toList := by
    rw [hentries]
    exact build_prefix _ _
  have hends : "\x7d\n\n".toList <:+ p.text.toList := by
    rw [hentries]
    exact build_suffix _ _
  refine ⟨hbegins, hends, hp.blankFree.terminatorOnlyAtEnd, fun id hid => ⟨splitFrame_idLine hid _, ?_⟩⟩
  intro ρ t r hbuf hslot cs c hc hcut
  have hframe : utf8Bytes (idLine id) ++ utf8Bytes p.text = utf8Bytes (idLine id ++ p.text) :=
    (utf8Bytes_append _ _).symm
  have hcomplete : isCompleteFrame (t.buffer ++ utf8Bytes (idLine id ++ p.text)) = true := by
    rw [hbuf, List.nil_append]
    exact isCompleteFrame_utf8Bytes (hends.trans (by rw [String.toList_append]; exact List.suffix_append _ _))
  have hsplit : splitFrame (t.buffer ++ utf8Bytes (idLine id ++ p.text)) =
      .ok (id, utf8Bytes p.text) := by
    rw [hbuf, List.nil_append, ← hframe]
    exact splitFrame_idLine hid _
  rw [hframe] at hcut
  rw [SlotTable.feedAll_frame hbuf (hp.blankFree.idLine id).terminatorOnlyAtEnd cs c hc hcut,
    SlotTable.feed_of_pending hcomplete hsplit hslot, SlotTable.clear_of_buffer_nil hbuf,
    payloadAnswer_utf8Bytes]
  rfl

/-- A demangle request for one name, as request 0, read back in one chunk from a table where it
waits. -/
theorem demangle_request_read_back :
    Built (demangleRequest ["x"]) ∧ 0 < Nat.pow 2 64 ∧
      (SlotTable.empty.insert 0 ()).1.buffer = [] ∧
      (SlotTable.empty.insert 0 ()).1.slots (slotOf 0) = some ⟨0, ()⟩ ∧
      utf8Bytes (idLine 0) ++ utf8Bytes (demangleRequest ["x"]).text ≠ [] ∧
      (SlotTable.empty.insert 0 ()).1.feedAll
          ([] ++ [utf8Bytes (idLine 0) ++ utf8Bytes (demangleRequest ["x"]).text]) =
        ((SlotTable.empty.insert 0 ()).1.setSlot (slotOf 0) none, [.ok (some 0)],
          [⟨(), 0, .ok (demangleRequest ["x"]).text⟩]) :=
  ⟨.demangle ["x"], by decide, rfl, rfl, by simp [utf8Bytes_idLine],
    ((built_request_frames_read_back (.demangle ["x"])).2.2.2 0 (by decide)).2 _ () rfl rfl [] _
      (by simp [utf8Bytes_idLine]) (by simp)⟩

end SwiftDevEnv.Wire
