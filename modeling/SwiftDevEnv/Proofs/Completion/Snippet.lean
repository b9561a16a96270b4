import Mathlib
import SwiftDevEnv.Completion

/-!
# Snippets of completion templates

A completion template marks each argument as a placeholder `<#T##text#>`: the opening
`<#T##`, the shortest non-empty run of non-newline characters, then `#>`. Placeholders are
matched leftmost first and never overlap, the way a regular expression with a lazy repetition
finds them. `PlaceholderSplit` says this without the algorithm: the template is a gap where no
placeholder starts, a placeholder whose content is lazy (`#>` stands in it at most at its first
character), and a split of the rest.

The snippet of a template is read off any such split (`weave`): the gaps are kept, the `i`-th
placeholder becomes the tab stop `${i:name}`, and the first `<#code#>` found in a gap becomes the
bare tab stop after the last numbered one. The code stop is placed in the rewritten text, yet
it lands in a gap: `<#code#>` holds neither `$` nor `}`, which open and close each tab stop, and
cannot stand in a lazy content, which holds no `#>` after its first character. So the
substitutions neither create nor destroy a `<#code#>` outside the placeholders.
-/

namespace SwiftDevEnv.Completion

open SwiftDevEnv.Text

/-! ## First occurrences -/

section Search

variable {needle : List Char}

/-- A search started at position `i` reports the positions of a search from zero, shifted. -/
theorem firstIndexFrom_eq_map (h : List Char) (i : Nat) :
    firstIndexFrom needle h i = (firstIndexFrom needle h 0).map (i + ·) := by
  induction h generalizing i with
  | nil => by_cases he : needle.isEmpty <;> simp [firstIndexFrom, he]
  | cons c rest ih =>
    simp only [firstIndexFrom]
    split
    · simp
    · rw [ih (i + 1), ih 1, Option.map_map]
      congr 1
      funext k
      simp only [Function.comp_apply]
      omega

/-- The first occurrence in a non-empty text is at its start, or one further than in its
tail. -/
theorem firstIndex_cons (c : Char) (t : List Char) :
    firstIndex (c :: t) needle =
      if needle <+: c :: t then some 0 else (firstIndex t needle).map (· + 1) := by
  unfold firstIndex
  rw [firstIndexFrom]
  by_cases hp : needle <+: c :: t
  · simp [List.isPrefixOf_iff_prefix.mpr hp, hp]
  · have hb : needle.isPrefixOf (c :: t) = false := by
      rw [Bool.eq_false_iff, ne_eq, List.isPrefixOf_iff_prefix]
      exact hp
    rw [if_neg (by simp [hb]), if_neg hp, firstIndexFrom_eq_map]
    simp [Nat.add_comm 1]

/-- Replacing the first occurrence in a non-empty text: there, if the needle starts it, and
otherwise further on. -/
theorem replaceFirst_cons (c : Char) (t rep : List Char) :
    replaceFirst (c :: t) needle rep =
      if needle <+: c :: t then rep ++ (c :: t).drop needle.length
      else c :: replaceFirst t needle rep := by
  unfold replaceFirst
  rw [firstIndex_cons]
  by_cases hp : needle <+: c :: t
  · simp [hp]
  · rw [if_neg hp, if_neg hp]
    cases firstIndex t needle <;> simp [Nat.add_right_comm]

/-- A text without the needle is left as it is. -/
theorem replaceFirst_eq_self {h : List Char} (hn : ¬ needle <:+: h) (rep : List Char) :
    replaceFirst h needle rep = h := by
  induction h with
  | nil =>
    have hne : needle ≠ [] := fun he => hn (he ▸ List.nil_infix)
    simp [replaceFirst, firstIndex, firstIndexFrom, hne]
  | cons c t ih =>
    rw [List.infix_cons_iff, not_or] at hn
    rw [replaceFirst_cons, if_neg hn.1, ih hn.2]

/-- A needle without `b` is a prefix of a text in which `b` follows `A` exactly when it is a
prefix of `A`. -/
theorem prefix_append_cons_iff {b : Char} (hb : b ∉ needle) (A R : List Char) :
    needle <+: A ++ b :: R ↔ needle <+: A := by
  constructor
  · intro h
    by_cases hlen : needle.length ≤ A.length
    · exact List.prefix_of_prefix_length_le h (List.prefix_append A (b :: R)) hlen
    · -- a longer needle would hold the `b` that follows `A`
      have hA : A.length < needle.length := by omega
      have hb' := h.getElem hA
      rw [List.getElem_append_right (Nat.le_refl _)] at hb'
      simp only [Nat.sub_self, List.getElem_cons_zero] at hb'
      exact absurd (hb' ▸ List.getElem_mem hA) hb
  · exact fun h => h.trans (List.prefix_append _ _)

/-- A character the needle does not hold separates the text: an occurrence lies wholly before
it or wholly after it. -/
theorem infix_append_cons_iff {b : Char} (hb : b ∉ needle) (A R : List Char) :
    needle <:+: A ++ b :: R ↔ needle <:+: A ∨ needle <:+: R := by
  induction A with
  | nil =>
    have hpre := prefix_append_cons_iff hb [] R
    rw [List.nil_append] at hpre
    rw [List.nil_append, List.infix_cons_iff, hpre]
    constructor
    · rintro (h | h)
      · exact .inr (List.eq_nil_of_prefix_nil h ▸ List.nil_infix)
      · exact .inr h
    · rintro (h | h)
      · exact .inr (List.eq_nil_of_infix_nil h ▸ List.nil_infix)
      · exact .inr h
  | cons x A ih =>
    rw [List.cons_append, List.infix_cons_iff, ← List.cons_append, prefix_append_cons_iff hb,
      ih, List.infix_cons_iff, or_assoc]

/-- Replacing the first occurrence of a needle without `b` in a text where `b` follows `A`:
within `A` if it occurs there, and otherwise after the `b`. -/
theorem replaceFirst_append_cons {b : Char} (hb : b ∉ needle) (hne : needle ≠ [])
    (A R rep : List Char) :
    replaceFirst (A ++ b :: R) needle rep =
      if needle <:+: A then replaceFirst A needle rep ++ b :: R
      else A ++ b :: replaceFirst R needle rep := by
  induction A with
  | nil =>
    have hpre : ¬ needle <+: b :: R := by
      rw [← List.nil_append (b :: R), prefix_append_cons_iff hb]
      exact fun h => hne (List.eq_nil_of_prefix_nil h)
    have hinf : ¬ needle <:+: [] := fun h => hne (List.eq_nil_of_infix_nil h)
    rw [List.nil_append, replaceFirst_cons, if_neg hpre, if_neg hinf, List.nil_append]
  | cons x A ih =>
    have hiff := prefix_append_cons_iff hb (x :: A) R
    rw [List.cons_append] at hiff
    rw [List.cons_append, replaceFirst_cons]
    by_cases hpre : needle <+: x :: A
    · -- the occurrence starts here, and ends before the `b`
      have hlen : needle.length ≤ (x :: A).length := hpre.length_le
      rw [if_pos (hiff.mpr hpre), if_pos (List.infix_cons_iff.mpr (.inl hpre)), replaceFirst_cons,
        if_pos hpre, ← List.cons_append, List.drop_append_of_le_length hlen, List.append_assoc]
    · rw [if_neg (mt hiff.mp hpre), ih, replaceFirst_cons, if_neg hpre]
      by_cases hin : needle <:+: A
      · rw [if_pos hin, if_pos (List.infix_cons_iff.mpr (.inr hin)), List.cons_append]
      · have hnot : ¬ needle <:+: x :: A := by
          rw [List.infix_cons_iff]
          tauto
        rw [if_neg hin, if_neg hnot, List.cons_append]

end Search

/-! ## Placeholders -/

/-- The text of a placeholder with content `c`. -/
def placeholderText (c : List Char) : List Char := "<#T##".toList ++ c ++ "#>".toList

/-- A placeholder starts the text: `<#T##`, a non-empty run of non-newline characters, `#>`. -/
def StartsPlaceholder (t : List Char) : Prop :=
  ∃ c rest, c ≠ [] ∧ '\n' ∉ c ∧ t = placeholderText c ++ rest

/-- The content a lazy match takes: non-empty, without a newline, and the shortest such run, so
`#>` stands in it at most at its first character. -/
def IsLazyContent (c : List Char) : Prop :=
  c ≠ [] ∧ '\n' ∉ c ∧ ¬ "#>".toList <:+: c.tail

/-- A placeholder starts only where its opening `<#T##` does. -/
theorem not_startsPlaceholder_of_no_opening {t : List Char} (h : ¬ "<#T##".toList <+: t) :
    ¬ StartsPlaceholder t := by
  rintro ⟨c, rest, -, -, rfl⟩
  refine h ⟨c ++ "#>".toList ++ rest, ?_⟩
  show _ = "<#T##".toList ++ c ++ "#>".toList ++ rest
  simp only [List.append_assoc]

theorem placeholderText_append (c rest : List Char) :
    placeholderText c ++ rest = '<' :: '#' :: 'T' :: '#' :: '#' :: (c ++ '#' :: '>' :: rest) := by
  show "<#T##".toList ++ c ++ "#>".toList ++ rest = _
  simp

section Body

variable {acc : List Char} {x : Char}

/-- The content ends where `#>` follows the character just read. -/
theorem placeholderBody_close (hx : x ≠ '\n') (after : List Char) :
    placeholderBody acc (x :: '#' :: '>' :: after) = some ((x :: acc).reverse, after) := by
  simp [placeholderBody, hx]

/-- Where `#>` does not follow, the character joins the content and the scan goes on. -/
theorem placeholderBody_step (hx : x ≠ '\n') {t : List Char} (ht : ¬ "#>".toList <+: t) :
    placeholderBody acc (x :: t) = placeholderBody (x :: acc) t := by
  rw [placeholderBody.eq_def]
  simp only [hx, if_false]
  split
  · exact absurd (by simp) ht
  · rfl

/-- A newline ends the scan with no placeholder. -/
theorem placeholderBody_newline (t : List Char) : placeholderBody acc ('\n' :: t) = none := by
  rw [placeholderBody.eq_def]
  simp

/-- A lazy content followed by `#>` is read as the content. The closing `#>` cannot come earlier: it
would stand in the content after its first character. -/
theorem placeholderBody_of_isLazyContent {c : List Char} (hc : IsLazyContent c) (acc rest : List Char) :
    placeholderBody acc (c ++ '#' :: '>' :: rest) = some (acc.reverse ++ c, rest) := by
  induction c generalizing acc with
  | nil => exact absurd rfl hc.1
  | cons x c ih =>
    obtain ⟨-, hnl, hlazy⟩ := hc
    have hx : x ≠ '\n' := fun h => hnl (h ▸ List.mem_cons_self)
    cases c with
    | nil => simp [placeholderBody_close hx]
    | cons y c =>
      have hnot : ¬ "#>".toList <+: y :: c ++ '#' :: '>' :: rest := by
        rintro hp
        cases c with
        | nil => simp at hp
        | cons z c =>
          simp only [List.tail_cons] at hlazy
          exact hlazy ((by simpa using hp : "#>".toList <+: y :: z :: c)).isInfix
      rw [List.cons_append, placeholderBody_step hx hnot]
      have hc' : IsLazyContent (y :: c) :=
        ⟨List.cons_ne_nil _ _, fun h => hnl (List.mem_cons_of_mem _ h),
          fun h => hlazy (h.trans (List.suffix_cons _ _).isInfix)⟩
      rw [ih hc']
      simp

/-- What the scan reads is a lazy content followed by `#>`. -/
theorem placeholderBody_eq_some {body content after : List Char}
    (h : placeholderBody acc body = some (content, after)) :
    ∃ c, IsLazyContent c ∧ content = acc.reverse ++ c ∧ body = c ++ '#' :: '>' :: after := by
  induction body generalizing acc with
  | nil => simp [placeholderBody] at h
  | cons x t ih =>
    by_cases hx : x = '\n'
    · rw [hx, placeholderBody_newline] at h
      cases h
    by_cases hclose : "#>".toList <+: t
    · -- the content is the one character read
      obtain ⟨after', rfl⟩ : ∃ after', t = '#' :: '>' :: after' := by
        obtain ⟨u, hu⟩ := hclose
        exact ⟨u, hu.symm⟩
      rw [placeholderBody_close hx] at h
      obtain ⟨rfl, rfl⟩ := Prod.mk.inj (Option.some.inj h)
      exact ⟨[x], ⟨List.cons_ne_nil _ _, by simpa using Ne.symm hx, by simp⟩, by simp, rfl⟩
    · rw [placeholderBody_step hx hclose] at h
      obtain ⟨c, ⟨hne, hnl, hlazy⟩, rfl, rfl⟩ := ih h
      refine ⟨x :: c, ⟨List.cons_ne_nil _ _, ?_, ?_⟩, by simp, rfl⟩
      · simpa [Ne.symm hx] using hnl
      · -- `#>` neither starts the rest of the content nor stands later in it
        obtain ⟨y, c, rfl⟩ := List.exists_cons_of_ne_nil hne
        rw [List.tail_cons, List.infix_cons_iff]
        rintro (hp | hin)
        · exact hclose (hp.trans (List.prefix_append _ _))
        · exact hlazy hin

/-- Wherever a placeholder starts, the scan reads one. -/
theorem placeholderBody_ne_none {c : List Char} (hne : c ≠ []) (hnl : '\n' ∉ c) (acc rest : List Char) :
    placeholderBody acc (c ++ '#' :: '>' :: rest) ≠ none := by
  induction c generalizing acc with
  | nil => exact absurd rfl hne
  | cons x c ih =>
    have hx : x ≠ '\n' := fun h => hnl (h ▸ List.mem_cons_self)
    by_cases hclose : "#>".toList <+: c ++ '#' :: '>' :: rest
    · obtain ⟨after, hafter⟩ := hclose
      rw [List.cons_append, ← hafter]
      simp [placeholderBody_close hx]
    · rw [List.cons_append, placeholderBody_step hx hclose]
      have hc : c ≠ [] := by
        rintro rfl
        exact hclose (by simp)
      exact ih hc (fun h => hnl (List.mem_cons_of_mem _ h)) _

end Body

/-- Exactly where a placeholder starts, the scan of its opening reads one. -/
theorem startsPlaceholder_iff (body : List Char) :
    StartsPlaceholder ('<' :: '#' :: 'T' :: '#' :: '#' :: body) ↔ placeholderBody [] body ≠ none := by
  constructor
  · rintro ⟨c, rest, hne, hnl, he⟩
    rw [placeholderText_append] at he
    simp only [List.cons.injEq, true_and] at he
    rw [he]
    exact placeholderBody_ne_none hne hnl [] rest
  · intro h
    obtain ⟨⟨content, after⟩, hsome⟩ := Option.ne_none_iff_exists'.mp h
    obtain ⟨c, ⟨hne, hnl, -⟩, -, rfl⟩ := placeholderBody_eq_some hsome
    exact ⟨c, after, hne, hnl, (placeholderText_append c after).symm⟩

/-! ## Replacing the placeholders -/

/-- The tab stop numbered `n` holding `name`: `${n:name}`. -/
def tabStop (n : Nat) (name : List Char) : List Char :=
  "$\x7b".toList ++ (toString n).toList ++ [':'] ++ name ++ ['\x7d']

/-- A placeholder with lazy content becomes its tab stop. -/
theorem replacePlaceholders_placeholder {c : List Char} (hc : IsLazyContent c) (n : Nat)
    (rest : List Char) :
    replacePlaceholders n (placeholderText c ++ rest) =
      (tabStop n (placeholderName c) ++ (replacePlaceholders (n + 1) rest).1,
        (replacePlaceholders (n + 1) rest).2) := by
  rw [placeholderText_append, replacePlaceholders.eq_2]
  split
  · rename_i content after hbody
    rw [placeholderBody_of_isLazyContent hc] at hbody
    obtain ⟨rfl, rfl⟩ := Prod.mk.inj (Option.some.inj hbody)
    cases replacePlaceholders (n + 1) rest
    show _ = ("$\x7b".toList ++ (toString n).toList ++ [':'] ++ placeholderName c ++ ['\x7d'] ++ _, _)
    simp only [List.append_assoc, List.reverse_nil, List.nil_append]
  · rename_i hbody
    rw [placeholderBody_of_isLazyContent hc] at hbody
    cases hbody

/-- A character where no placeholder starts is kept. -/
theorem replacePlaceholders_cons {x : Char} {t : List Char} (h : ¬ StartsPlaceholder (x :: t))
    (n : Nat) :
    replacePlaceholders n (x :: t) =
      (x :: (replacePlaceholders n t).1, (replacePlaceholders n t).2) := by
  by_cases hpat : ∃ body, x :: t = '<' :: '#' :: 'T' :: '#' :: '#' :: body
  · -- an opening that no placeholder follows
    obtain ⟨body, hbody⟩ := hpat
    simp only [List.cons.injEq] at hbody
    obtain ⟨rfl, rfl⟩ := hbody
    have hnone : placeholderBody [] body = none := by
      by_contra hne
      exact h ((startsPlaceholder_iff body).mpr hne)
    rw [replacePlaceholders.eq_2]
    split
    · rename_i hsome
      rw [hnone] at hsome
      cases hsome
    · rfl
  · rw [replacePlaceholders.eq_3 n x t fun body hx ht => hpat ⟨body, by rw [hx, ht]⟩]

/-- A gap where no placeholder starts is kept as it is. -/
theorem replacePlaceholders_gap {g : List Char} (t : List Char)
    (hg : ∀ k < g.length, ¬ StartsPlaceholder ((g ++ t).drop k)) (n : Nat) :
    replacePlaceholders n (g ++ t) =
      (g ++ (replacePlaceholders n t).1, (replacePlaceholders n t).2) := by
  induction g with
  | nil => rfl
  | cons x g ih =>
    rw [List.cons_append, replacePlaceholders_cons (by simpa using hg 0 (by simp)),
      ih fun k hk => by simpa using hg (k + 1) (by simpa using hk)]
    rfl

/-! ## Splitting a template at its placeholders -/

/-- A template split at the leftmost-first, non-overlapping placeholder matches: the gap before
the first match (`first`), then for each match its content and the gap after it. -/
inductive PlaceholderSplit : List Char → List Char → List (List Char × List Char) → Prop
  /-- A text where no placeholder starts is a single gap. -/
  | gap (g : List Char) (hg : ∀ k < g.length, ¬ StartsPlaceholder (g.drop k)) :
      PlaceholderSplit g g []
  /-- A gap where no placeholder starts, then a placeholder with lazy content, then the rest. -/
  | placeholder (g c rest first : List Char) (parts : List (List Char × List Char))
      (hg : ∀ k < g.length, ¬ StartsPlaceholder ((g ++ placeholderText c ++ rest).drop k))
      (hc : IsLazyContent c) (hrest : PlaceholderSplit rest first parts) :
      PlaceholderSplit (g ++ placeholderText c ++ rest) g ((c, first) :: parts)

/-- Every content of a split is lazy. -/
theorem PlaceholderSplit.isLazyContent {s first : List Char} {parts : List (List Char × List Char)}
    (h : PlaceholderSplit s first parts) : ∀ p ∈ parts, IsLazyContent p.1 := by
  induction h with
  | gap => simp
  | placeholder g c rest first parts hg hc hrest ih =>
    intro p hp
    rcases List.mem_cons.mp hp with rfl | hp
    · exact hc
    · exact ih p hp

/-- A character where no placeholder starts joins the first gap. -/
theorem PlaceholderSplit.cons {x : Char} {t first : List Char} {parts : List (List Char × List Char)}
    (hx : ¬ StartsPlaceholder (x :: t)) (h : PlaceholderSplit t first parts) :
    PlaceholderSplit (x :: t) (x :: first) parts := by
  cases h with
  | gap _ hg =>
    refine .gap _ fun k hk => ?_
    cases k with
    | zero => exact hx
    | succ k => exact hg k (by simpa using hk)
  | placeholder _ c rest _ _ hg hc hrest =>
    have hs := PlaceholderSplit.placeholder (x :: first) c rest _ _ (fun k hk => ?_) hc hrest
    · simpa using hs
    cases k with
    | zero => exact hx
    | succ k => exact hg k (by simpa using hk)

/-- Every template splits at its placeholders. The scan that replaces the placeholders finds the
split. -/
theorem exists_placeholderSplit (s : List Char) :
    ∃ first parts, PlaceholderSplit s first parts := by
  induction 0, s using replacePlaceholders.induct with
  | case1 => exact ⟨[], [], .gap [] (by simp)⟩
  | case2 n body content after hbody _ _ _ _ ih =>
    obtain ⟨first, parts, hsplit⟩ := ih
    obtain ⟨c, hc, -, rfl⟩ := placeholderBody_eq_some hbody
    refine ⟨[], (c, first) :: parts, ?_⟩
    have hs := PlaceholderSplit.placeholder [] c after first parts (by simp) hc hsplit
    rwa [List.nil_append, placeholderText_append] at hs
  | case3 n body hbody _ _ _ ih =>
    obtain ⟨first, parts, hsplit⟩ := ih
    refine ⟨_, parts, hsplit.cons ?_⟩
    rw [startsPlaceholder_iff]
    exact fun h => h hbody
  | case4 n x t hpat _ _ _ ih =>
    obtain ⟨first, parts, hsplit⟩ := ih
    refine ⟨_, parts, hsplit.cons ?_⟩
    rintro ⟨c, rest, -, -, he⟩
    rw [placeholderText_append] at he
    simp only [List.cons.injEq] at he
    exact hpat _ he.1 he.2

/-- The snippet text of a split: each gap, then the tab stop of the next placeholder, numbered
from `n`. While `codeStop` is given, the first gap holding `<#code#>` has its first one replaced
by it, and later gaps are kept. -/
def weave (codeStop : Option (List Char)) (n : Nat) (g : List Char) :
    List (List Char × List Char) → List Char
  | [] => fillGap codeStop g
  | (c, g') :: parts => fillGap codeStop g ++ tabStop n (placeholderName c) ++
      weave (if "<#code#>".toList <:+: g then none else codeStop) (n + 1) g' parts
where
  /-- A gap, with its first `<#code#>` replaced by the code stop if one is given. -/
  fillGap : Option (List Char) → List Char → List Char
    | none, g => g
    | some stop, g => replaceFirst g "<#code#>".toList stop

/-- Along a split, the placeholders are replaced left to right, numbered from `n`. -/
theorem replacePlaceholders_of_split {s first : List Char} {parts : List (List Char × List Char)}
    (h : PlaceholderSplit s first parts) (n : Nat) :
    replacePlaceholders n s = (weave none n first parts, n + parts.length) := by
  induction h generalizing n with
  | gap g hg =>
    have := replacePlaceholders_gap [] (by simpa using hg) n
    rw [List.append_nil, replacePlaceholders.eq_1] at this
    rw [this, weave, weave.fillGap, List.append_nil, List.length_nil, Nat.add_zero]
  | placeholder g c rest first parts hg hc hrest ih =>
    rw [List.append_assoc, replacePlaceholders_gap _ (by simpa using hg),
      replacePlaceholders_placeholder hc, ih, weave, weave.fillGap, ite_self, List.length_cons,
      List.append_assoc, Nat.add_right_comm, Nat.add_assoc]

/-! ## Names of placeholders -/

/-- The name of a placeholder ends before its content's first `##`. -/
theorem placeholderName_cons (x : Char) (t : List Char) :
    placeholderName (x :: t) = if ['#', '#'] <+: x :: t then [] else x :: placeholderName t := by
  unfold placeholderName
  rw [firstIndex_cons]
  by_cases hp : ['#', '#'] <+: x :: t
  · rw [if_pos hp, if_pos hp]
    rfl
  · rw [if_neg hp, if_neg hp]
    cases firstIndex t ['#', '#'] <;> simp

/-- The name of a placeholder is its content up to the first `##`, or all of it. -/
theorem placeholderName_spec (c : List Char) :
    ∃ r, c = placeholderName c ++ r ∧ (r = [] ∨ ['#', '#'] <+: r) ∧
      ∀ j < (placeholderName c).length, ¬ ['#', '#'] <+: c.drop j := by
  induction c with
  | nil =>
    have hnil : placeholderName [] = [] := rfl
    exact ⟨[], by rw [hnil]; rfl, .inl rfl, by simp [hnil]⟩
  | cons x t ih =>
    rw [placeholderName_cons]
    by_cases hp : ['#', '#'] <+: x :: t
    · rw [if_pos hp]
      exact ⟨x :: t, rfl, .inr hp, by simp⟩
    · rw [if_neg hp]
      obtain ⟨r, hr, hend, hfirst⟩ := ih
      refine ⟨r, by rw [List.cons_append, ← hr], hend, fun j hj => ?_⟩
      cases j with
      | zero => exact hp
      | succ j => exact hfirst j (by simpa using hj)

/-- The name of a placeholder is a prefix of its content. -/
theorem content_starts_with_placeholderName (c : List Char) : placeholderName c <+: c := by
  obtain ⟨r, hr, -⟩ := placeholderName_spec c
  exact ⟨r, hr.symm⟩

/-! ## The code stop lands in a gap -/

/-- The marker `<#code#>` never stands in a lazy content, whose `#>` could only be its first
character. -/
theorem not_infix_code_of_isLazyContent {c : List Char} (hc : IsLazyContent c) :
    ¬ "<#code#>".toList <:+: c := by
  rintro ⟨u, v, rfl⟩
  apply hc.2.2
  have hmark : "#>".toList <:+: "#code#>".toList := by decide
  refine hmark.trans ?_
  cases u with
  | nil => exact ⟨[], v, by simp⟩
  | cons y u => exact ⟨u ++ ['<'], v, by simp⟩

/-- The number of a tab stop is written in digits, so it holds no `<`. -/
theorem lt_not_mem_toString (n : Nat) : '<' ∉ (toString n).toList := by
  rw [Nat.toString_eq_ofList_toDigits, String.toList_ofList]
  intro h
  have := Nat.isDigit_of_mem_toDigits (by decide) (by decide) h
  exact absurd this (by decide)

/-- A text holding no `<` holds no `<#code#>`. -/
theorem not_infix_code_of_not_mem {l : List Char} (h : '<' ∉ l) : ¬ "<#code#>".toList <:+: l :=
  fun hin => h (hin.subset (by simp))

/-- The text of a tab stop followed by more text. -/
theorem tabStop_append (n : Nat) (name rest : List Char) :
    tabStop n name ++ rest =
      '$' :: ('\x7b' :: (toString n).toList ++ ':' :: (name ++ '\x7d' :: rest)) := by
  show "$\x7b".toList ++ (toString n).toList ++ [':'] ++ name ++ ['\x7d'] ++ rest = _
  simp

/-- Neither the number nor the name of the tab stop of a lazy content holds `<#code#>`. -/
theorem not_infix_code_tabStop {c : List Char} (hc : IsLazyContent c) (n : Nat) :
    ¬ "<#code#>".toList <:+: '\x7b' :: (toString n).toList ∧
      ¬ "<#code#>".toList <:+: placeholderName c :=
  ⟨not_infix_code_of_not_mem (by simpa using lt_not_mem_toString n),
    fun h => not_infix_code_of_isLazyContent hc
      (h.trans (content_starts_with_placeholderName c).isInfix)⟩

/-- Replacing the first `<#code#>` of a snippet text replaces the first one of its gaps: none is
made or hidden by the tab stops. The gap is separated from the tab stop by `$`, the number from the
name by `:` and the name from the rest by a closing brace. -/
theorem replaceFirst_weave {first : List Char} {parts : List (List Char × List Char)}
    (hlazy : ∀ p ∈ parts, IsLazyContent p.1) (n : Nat) (stop : List Char) :
    replaceFirst (weave none n first parts) "<#code#>".toList stop =
      weave (some stop) n first parts := by
  have hne : "<#code#>".toList ≠ [] := by decide
  induction parts generalizing n first with
  | nil => rfl
  | cons p parts ih =>
    obtain ⟨c, g'⟩ := p
    obtain ⟨hdigits, hname⟩ := not_infix_code_tabStop (hlazy (c, g') List.mem_cons_self) n
    simp only [weave, weave.fillGap, ite_self, List.append_assoc, tabStop_append]
    rw [replaceFirst_append_cons (by decide) hne, replaceFirst_append_cons (by decide) hne,
      if_neg hdigits, replaceFirst_append_cons (by decide) hne, if_neg hname,
      ih (fun q hq => hlazy q (List.mem_cons_of_mem _ hq))]
    by_cases hg : "<#code#>".toList <:+: first
    · rw [if_pos hg, if_pos hg]
    · rw [if_neg hg, if_neg hg, replaceFirst_eq_self hg]

/-- The snippet text holds `<#code#>` exactly when one of its gaps does. -/
theorem infix_code_weave_iff {first : List Char} {parts : List (List Char × List Char)}
    (hlazy : ∀ p ∈ parts, IsLazyContent p.1) (n : Nat) :
    "<#code#>".toList <:+: weave none n first parts ↔
      "<#code#>".toList <:+: first ∨ ∃ p ∈ parts, "<#code#>".toList <:+: p.2 := by
  induction parts generalizing n first with
  | nil => simp [weave, weave.fillGap]
  | cons p parts ih =>
    obtain ⟨c, g'⟩ := p
    obtain ⟨hdigits, hname⟩ := not_infix_code_tabStop (hlazy (c, g') List.mem_cons_self) n
    simp only [weave, weave.fillGap, ite_self, List.append_assoc, tabStop_append]
    rw [infix_append_cons_iff (by decide), infix_append_cons_iff (by decide),
      infix_append_cons_iff (by decide), ih (fun q hq => hlazy q (List.mem_cons_of_mem _ hq))]
    simp only [hdigits, hname, false_or, List.mem_cons, exists_eq_or_imp]

/-! ## Snippets -/

/-- A text without its leading `.`, if it has one. -/
def dropLeadingDot : List Char → List Char
  | '.' :: rest => rest
  | t => t

/-- The snippet of a template, read off any split of it at its placeholders. -/
theorem snippet_eq_of_split {s : String} {first : List Char} {parts : List (List Char × List Char)}
    (h : PlaceholderSplit s.toList first parts) :
    snippet s = String.ofList (dropLeadingDot (weave
      (some ("$\x7b".toList ++ (toString (parts.length + 1)).toList ++ ['\x7d'])) 1 first parts)) := by
  unfold snippet
  rw [replacePlaceholders_of_split h 1]
  simp only
  rw [Nat.add_comm 1, replaceFirst_weave h.isLazyContent]
  split <;> simp_all [dropLeadingDot]

/-- Snippets of completion templates. Every template splits at its leftmost-first,
non-overlapping placeholders, and for every such split the snippet is the template with the
`i`-th placeholder replaced by `${i:name}`, its name being its content up to the first `##`,
then the first `<#code#>` of the gaps replaced by `${k+1}` for `k` placeholders, and one
leading `.` dropped. Tab stops make and hide no `<#code#>`: replacing the first one of the
rewritten text replaces the first one of its gaps, and the rewritten text holds one exactly when
a gap does. -/
theorem snippet_numbers_placeholders_and_places_code_stop (s : String) :
    (∃ first parts, PlaceholderSplit s.toList first parts) ∧
      ∀ first parts, PlaceholderSplit s.toList first parts →
        snippet s = String.ofList (dropLeadingDot (weave
          (some ("$\x7b".toList ++ (toString (parts.length + 1)).toList ++ ['\x7d'])) 1 first parts)) ∧
        (∀ n stop, replaceFirst (weave none n first parts) "<#code#>".toList stop =
          weave (some stop) n first parts) ∧
        (∀ n, "<#code#>".toList <:+: weave none n first parts ↔
          "<#code#>".toList <:+: first ∨ ∃ p ∈ parts, "<#code#>".toList <:+: p.2) ∧
        ∀ p ∈ parts, ∃ r, p.1 = placeholderName p.1 ++ r ∧ (r = [] ∨ ['#', '#'] <+: r) ∧
          ∀ j < (placeholderName p.1).length, ¬ ['#', '#'] <+: p.1.drop j :=
  ⟨exists_placeholderSplit s.toList, fun _ _ h =>
    ⟨snippet_eq_of_split h, replaceFirst_weave h.isLazyContent, infix_code_weave_iff h.isLazyContent,
      fun p _ => placeholderName_spec p.1⟩⟩

/-- A placeholder and a code marker: the placeholder becomes the first tab stop and the marker
the second. -/
theorem placeholder_then_code_marker :
    PlaceholderSplit "f(<#T##a#>) \x7b <#code#> \x7d".toList "f(".toList
        [("a".toList, ") \x7b <#code#> \x7d".toList)] ∧
      snippet "f(<#T##a#>) \x7b <#code#> \x7d" = "f($\x7b1:a\x7d) \x7b $\x7b2\x7d \x7d" := by
  have hsplit : PlaceholderSplit "f(<#T##a#>) \x7b <#code#> \x7d".toList "f(".toList
      [("a".toList, ") \x7b <#code#> \x7d".toList)] :=
    PlaceholderSplit.placeholder "f(".toList "a".toList ") \x7b <#code#> \x7d".toList _ []
      (fun k hk => not_startsPlaceholder_of_no_opening (by revert k; decide))
      ⟨by decide, by decide, by decide⟩
      (.gap _ fun k hk => not_startsPlaceholder_of_no_opening (by revert k; decide))
  refine ⟨hsplit, ?_⟩
  rw [((snippet_numbers_placeholders_and_places_code_stop _).2 _ _ hsplit).1]
  decide +kernel

end SwiftDevEnv.Completion
