import NodeSieve.Proofs.Grammar
import NodeSieve.Proofs.Splitting

/-!
# Patterns inside quotes

A group ends at the first quote that no backslash protects, so what matters of
a text between quotes is whether a quote in it closes the group and whether a
backslash is left open at its end. `escapeAfter?` is that one bit of state.

The texts that groups give are `PatternText`s. Written back into one group
they come out again if they are `joinable`, and only then: a pattern that
swallows the comma or the quote behind it comes back longer than it was, so
it can never be mistaken for itself.
-/

namespace NodeSieve.Definition

open NodeSieve.Unicode NodeSieve.Filter

/-- Whether a backslash is left open at the end of a text between quotes;
nothing if a quote closes the group before. -/
def escapeAfter? (escaped : Bool) : List Char → Option Bool
  | [] => some escaped
  | c :: cs =>
    if escaped then escapeAfter? false cs
    else if c = '\\' then escapeAfter? true cs
    else if c = '\'' then none
    else escapeAfter? false cs

theorem escapeAfter?_append (escaped : Bool) (xs ys : List Char) :
    escapeAfter? escaped (xs ++ ys) =
      (escapeAfter? escaped xs).bind fun e => escapeAfter? e ys := by
  induction xs generalizing escaped with
  | nil => rfl
  | cons c cs ih =>
      rw [List.cons_append, escapeAfter?, escapeAfter?]
      split
      · exact ih false
      · split
        · exact ih true
        · split
          · rfl
          · exact ih false

theorem escapeAfter?_plain {c : Char} {cs : List Char} (hslash : c ≠ '\\')
    (hquote : c ≠ '\'') : escapeAfter? false (c :: cs) = escapeAfter? false cs := by
  rw [escapeAfter?, if_neg (by decide), if_neg hslash, if_neg hquote]

theorem escapeAfter?_allBlank {cs : List Char} (h : AllBlank cs) :
    escapeAfter? false cs = some false := by
  induction cs with
  | nil => rfl
  | cons c cs ih =>
      obtain ⟨hc, hcs⟩ := allBlank_cons.mp h
      rw [escapeAfter?_plain, ih hcs]
      · intro h
        subst h
        exact absurd hc (by decide)
      · intro h
        subst h
        exact absurd hc (by decide)

theorem quotedContent_of_escapeAfter? (cs : List Char) :
    (escapeAfter? false cs = some false → QuotedContent cs) ∧
      (escapeAfter? true cs = some false → QuotedContent ('\\' :: cs)) := by
  induction cs with
  | nil => exact ⟨fun _ => .nil, fun h => absurd h (by decide)⟩
  | cons c cs ih =>
      constructor
      · intro h
        rw [escapeAfter?, if_neg (by decide)] at h
        split at h
        · next hslash => exact hslash ▸ ih.2 h
        · next hslash =>
            split at h
            · cases h
            · next hquote => exact .plain hquote hslash (ih.1 h)
      · intro h
        exact .escape (ih.1 h)

theorem quotedContent_iff {cs : List Char} :
    QuotedContent cs ↔ escapeAfter? false cs = some false := by
  constructor
  · intro h
    induction h with
    | nil => rfl
    | plain hquote hslash _ ih => rw [escapeAfter?_plain hslash hquote, ih]
    | escape _ ih => exact ih
  · exact (quotedContent_of_escapeAfter? cs).1

/-! ## The scanner's own escape -/

theorem Scan.next_escaped (s : Scan) (c : Char) :
    (s.next c).escaped = (!s.escaped && c == '\\') := by
  rw [Scan.next]
  cases hs : s.escaped with
  | true => rfl
  | false =>
      rw [if_neg (by decide)]
      by_cases hslash : c = '\\'
      · rw [if_pos hslash, hslash]
        rfl
      · rw [if_neg hslash, beq_eq_false_iff_ne.mpr hslash]
        split
        · rw [Scan.nextOutside.eq_def]
          split <;> exact hs
        · rw [Scan.nextInClass.eq_def]
          split
          · exact hs
          · exact hs
          · split <;> exact hs
          · exact hs

theorem escaped_or_ne_quote {escaped : Bool} {c : Char} {cs : List Char}
    (h : escapeAfter? escaped (c :: cs) ≠ none) : escaped = true ∨ c ≠ '\'' := by
  cases escaped with
  | true => exact .inl rfl
  | false =>
      refine .inr ?_
      intro h
      subst h
      exact h rfl

theorem escapeAfter?_cons {s : Scan} {c : Char} (h : s.escaped = true ∨ c ≠ '\'')
    (cs : List Char) :
    escapeAfter? s.escaped (c :: cs) = escapeAfter? (s.next c).escaped cs := by
  rw [Scan.next_escaped, escapeAfter?]
  cases hs : s.escaped with
  | true => rfl
  | false =>
      rw [hs] at h
      have hquote : c ≠ '\'' := h.resolve_left (by decide)
      rw [if_neg (by decide)]
      by_cases hslash : c = '\\'
      · rw [if_pos hslash, hslash]
        rfl
      · rw [if_neg hslash, if_neg hquote, beq_eq_false_iff_ne.mpr hslash]
        rfl

theorem escaped_after {s : Scan} {cs : List Char} {e : Bool}
    (h : escapeAfter? s.escaped cs = some e) : (s.after cs).escaped = e := by
  induction cs generalizing s with
  | nil => exact Option.some.inj h
  | cons c cs ih =>
      have hhead := escaped_or_ne_quote (by rw [h]; exact Option.some_ne_none e)
      rw [escapeAfter?_cons hhead] at h
      exact ih h

theorem escapeAfter?_eq_some {s : Scan} {cs : List Char}
    (h : escapeAfter? s.escaped cs ≠ none) :
    escapeAfter? s.escaped cs = some (s.after cs).escaped := by
  obtain ⟨e, he⟩ := Option.ne_none_iff_exists'.mp h
  rw [escaped_after he, he]

/-! ## The patterns of a group -/

/-- A text that a group can give as a pattern. -/
structure PatternText (p : List Char) : Prop where
  ne_nil : p ≠ []
  trimmed : trimBlanks p = p
  unsplit : UnsplitFrom .start p
  unquoted : escapeAfter? false p ≠ none

/-- A group in its quotes. -/
def inQuotes (content : List Char) : List Char :=
  '\'' :: content ++ ['\'']

theorem inQuotes_append (content rest : List Char) :
    inQuotes content ++ rest = '\'' :: (content ++ '\'' :: rest) := by
  rw [inQuotes, List.cons_append, List.cons_append, List.append_assoc, List.singleton_append]

/-- The texts that a quoted group gives. -/
def groupTexts (content : List Char) : List (List Char) :=
  (splitPatterns content).map trimBlanks

/-- No pattern of a quoted group has a backslash open at its end. -/
theorem splitPatterns_closed {content p : List Char} (hcontent : QuotedContent content)
    (hp : p ∈ splitPatterns content) : escapeAfter? false p = some false := by
  rw [quotedContent_iff] at hcontent
  induction content using group_induction with
  | one q hq =>
      rw [splitPatterns, splitFrom_of_unsplit hq, List.mem_singleton] at hp
      exact hp ▸ hcontent
  | more q ys hq hstart ih =>
      have hclosed : escapeAfter? false q = some (Scan.start.after q).escaped := by
        refine escapeAfter?_eq_some (s := .start) fun hnone => ?_
        rw [escapeAfter?_append, show escapeAfter? false q = none from hnone] at hcontent
        cases hcontent
      rw [hstart, show Scan.start.escaped = false from rfl] at hclosed
      rw [splitPatterns_comma hq hstart, List.mem_cons] at hp
      rcases hp with rfl | hp
      · exact hclosed
      · refine ih ?_ hp
        rwa [escapeAfter?_append, hclosed, Option.bind_some,
          escapeAfter?_plain (by decide) (by decide)] at hcontent

theorem unquoted_trimBlanks {p : List Char} (hp : escapeAfter? false p ≠ none) :
    escapeAfter? false (trimBlanks p) ≠ none := by
  obtain ⟨u, v, hu, -, heq⟩ := exists_eq_trimBlanks p
  intro hnone
  apply hp
  rw [heq, escapeAfter?_append, escapeAfter?_append, escapeAfter?_allBlank hu,
    Option.bind_some, hnone]
  rfl

/-- The texts of a quoted group are patterns. -/
theorem patternText_of_group {content p : List Char} (hcontent : QuotedContent content)
    (hne : [] ∉ (splitPatterns content).map trimBlanks)
    (hp : p ∈ (splitPatterns content).map trimBlanks) : PatternText p := by
  obtain ⟨q, hq, rfl⟩ := List.mem_map.mp hp
  exact ⟨fun hnil => hne (hnil ▸ hp), trimBlanks_trimBlanks q,
    (splitPatterns_unsplit hq).trimBlanks,
    unquoted_trimBlanks (by rw [splitPatterns_closed hcontent hq]; exact Option.some_ne_none _)⟩

/-! ## Writing patterns into one group -/

theorem joinWithCommas_unquoted {ps : List (List Char)} (hne : ps ≠ [])
    (hps : ∀ p ∈ ps, PatternText p) : escapeAfter? false (joinWithCommas ps) ≠ none := by
  induction ps, hne using List.recNeNil with
  | singleton p => exact (hps p (List.mem_singleton_self p)).unquoted
  | cons p ps hne ih =>
      obtain ⟨hp, hps⟩ := List.forall_mem_cons.mp hps
      obtain ⟨e, he⟩ := Option.ne_none_iff_exists'.mp hp.unquoted
      -- Open or not, the backslash ends at the comma.
      have hcomma : escapeAfter? e (',' :: joinWithCommas ps) =
          escapeAfter? false (joinWithCommas ps) := by cases e <;> rfl
      rw [joinWithCommas_cons hne, escapeAfter?_append, he, Option.bind_some, hcomma]
      exact ih hps

theorem quotedContent_joinWithCommas {ps : List (List Char)} (hne : ps ≠ [])
    (hps : ∀ p ∈ ps, PatternText p) (hjoin : joinable ps = true) :
    QuotedContent (joinWithCommas ps) := by
  rw [quotedContent_iff]
  induction ps, hne using List.recNeNil with
  | singleton p =>
      have hafter :=
        escapeAfter?_eq_some (s := .start) (hps p (List.mem_singleton_self p)).unquoted
      rw [joinable, Bool.not_eq_true'] at hjoin
      rw [hjoin] at hafter
      exact hafter
  | cons p ps hne ih =>
      obtain ⟨hp, hps⟩ := List.forall_mem_cons.mp hps
      rw [joinable_cons hne, Bool.and_eq_true] at hjoin
      have hafter := escapeAfter?_eq_some (s := .start) hp.unquoted
      rw [Scan.after_eq_start_iff.mpr hjoin.1] at hafter
      rw [joinWithCommas_cons hne, escapeAfter?_append,
        show escapeAfter? false p = some false from hafter, Option.bind_some]
      exact ih hps hjoin.2

theorem map_trimBlanks_eq {ps : List (List Char)} (hps : ∀ p ∈ ps, PatternText p) :
    ps.map trimBlanks = ps := by
  induction ps with
  | nil => rfl
  | cons p ps ih =>
      obtain ⟨hp, hps⟩ := List.forall_mem_cons.mp hps
      rw [List.map_cons, hp.trimmed, ih hps]

/-- A text that goes on behind its end comes back longer. -/
theorem trimBlanks_append_cons_ne {p cs : List Char} {c : Char} (hc : isBlank c = false) :
    trimBlanks (p ++ c :: cs) ≠ trimBlanks p := by
  obtain ⟨v, -, hp⟩ := exists_eq_dropTrailingBlanks_append (dropBlanks p)
  rw [trimBlanks, dropBlanks_append_cons_eq hc, dropTrailingBlanks_append_cons hc, trimBlanks]
  intro h
  have hlonger := congrArg List.length h
  have hlength := congrArg List.length hp
  rw [List.length_append, List.length_cons] at hlonger
  rw [List.length_append] at hlength
  omega

theorem not_prefix_of_swallowed {p cs : List Char} {c : Char} {ps : List (List Char)}
    (hp : PatternText p) (hc : isBlank c = false)
    (hswallowed : ¬ (c = ',' ∧ (Scan.start.after p).separatesAt = true)) :
    ¬ (splitPatterns (p ++ c :: cs)).map trimBlanks <+: p :: ps := by
  obtain ⟨piece, pieces, hsplit⟩ := exists_splitFrom_append_cons hp.unsplit hswallowed
  rw [show splitPatterns (p ++ c :: cs) = (p ++ c :: piece) :: pieces from hsplit,
    List.map_cons, List.cons_prefix_cons]
  exact fun h => trimBlanks_append_cons_ne hc (h.1.trans hp.trimmed.symm)

/-- If the patterns of a group begin with the patterns that were written into
it, these were joinable, and nothing else is in the group. -/
theorem joinable_of_prefix {ps : List (List Char)} {ext : List Char} (hne : ps ≠ [])
    (hps : ∀ p ∈ ps, PatternText p) (hext : ∀ c ∈ ext.head?, c = '\'')
    (hcontent : QuotedContent (joinWithCommas ps ++ ext))
    (h : (splitPatterns (joinWithCommas ps ++ ext)).map trimBlanks <+: ps) :
    joinable ps = true ∧ ext = [] := by
  induction ps, hne using List.recNeNil with
  | singleton p =>
      have hp := hps p (List.mem_singleton_self p)
      rw [show joinWithCommas [p] = p from rfl] at hcontent h
      cases ext with
      | nil =>
          rw [List.append_nil, quotedContent_iff] at hcontent
          have hclosed : (Scan.start.after p).escaped = false := escaped_after hcontent
          refine ⟨?_, rfl⟩
          rw [joinable, hclosed]
          rfl
      | cons c ext =>
          have hc : c = '\'' := hext c rfl
          subst hc
          exact absurd h (not_prefix_of_swallowed hp (by decide) (by simp))
  | cons p ps hne ih =>
      obtain ⟨hp, hps⟩ := List.forall_mem_cons.mp hps
      rw [joinWithCommas_cons hne, List.append_assoc, List.cons_append] at hcontent h
      by_cases hsep : (Scan.start.after p).separatesAt = true
      · have hstart := Scan.after_eq_start_iff.mpr hsep
        have hafter := escapeAfter?_eq_some (s := .start) hp.unquoted
        rw [hstart] at hafter
        rw [quotedContent_iff, escapeAfter?_append,
          show escapeAfter? false p = some false from hafter, Option.bind_some] at hcontent
        rw [splitPatterns_comma hp.unsplit hstart, List.map_cons, hp.trimmed,
          List.cons_prefix_cons] at h
        obtain ⟨hjoin, hnone⟩ := ih hps (quotedContent_iff.mpr hcontent) h.2
        rw [joinable_cons hne, hsep, hjoin]
        exact ⟨rfl, hnone⟩
      · exact absurd h (not_prefix_of_swallowed hp (by decide) fun hc => hsep hc.2)

/-! ## Escaped texts -/

/-- A way to write characters that protects all that mean something in a group:
a character is written behind a backslash, or it is as good as any other. -/
def Protects (write : Char → List Char) : Prop :=
  ∀ c, write c = ['\\', c] ∨ write c = [c] ∧ c ≠ '\\' ∧ c ≠ '\'' ∧ c ≠ ','

section

variable {write : Char → List Char}

theorem Protects.unsplitFrom (hwrite : Protects write) {s : Scan} (hs : s.escaped = false)
    (cs : List Char) : UnsplitFrom s (cs.flatMap write) := by
  induction cs generalizing s with
  | nil => trivial
  | cons c cs ih =>
      rw [List.flatMap_cons]
      rcases hwrite c with hc | ⟨hc, hslash, -, hcomma⟩
      · rw [hc]
        have hopen : (s.next '\\').escaped = true := by
          rw [Scan.next_escaped, hs]
          rfl
        have hclosed : ((s.next '\\').next c).escaped = false := by
          rw [Scan.next_escaped, hopen]
          rfl
        refine ⟨by simp, ?_, ih hclosed⟩
        rw [Scan.separatesAt, hopen]
        simp
      · rw [hc]
        have hclosed : (s.next c).escaped = false := by
          rw [Scan.next_escaped, hs, beq_eq_false_iff_ne.mpr hslash]
          rfl
        exact ⟨fun h => hcomma h.1, ih hclosed⟩

theorem Protects.escapeAfter? (hwrite : Protects write) (cs : List Char) :
    escapeAfter? false (cs.flatMap write) = some false := by
  induction cs with
  | nil => rfl
  | cons c cs ih =>
      rw [List.flatMap_cons]
      rcases hwrite c with hc | ⟨hc, hslash, hquote, -⟩
      · rw [hc]
        exact ih
      · rw [hc, List.singleton_append, escapeAfter?_plain hslash hquote]
        exact ih

theorem Protects.unescape (hwrite : Protects write) (cs : List Char) :
    unescape (cs.flatMap write) = cs := by
  rw [unescape_eq_unescapeEach]
  induction cs with
  | nil => rfl
  | cons c cs ih =>
      rw [List.flatMap_cons]
      rcases hwrite c with hc | ⟨hc, hslash, -, -⟩
      · rw [hc]
        show unescapeEach ('\\' :: c :: cs.flatMap write) = c :: cs
        rw [unescapeEach, ih]
      · rw [hc, List.singleton_append, unescapeEach_cons_of_ne hslash, ih]

end

theorem escapeTag_protects :
    Protects fun c => if c = '\\' ∨ c = '\'' ∨ c = ',' then ['\\', c] else [c] := by
  intro c
  by_cases h : c = '\\' ∨ c = '\'' ∨ c = ','
  · exact .inl (if_pos h)
  · refine .inr ⟨if_neg h, ?_⟩
    rwa [not_or, not_or] at h

theorem escapeChar_protects : Protects Pattern.escapeChar := by
  intro c
  rw [Pattern.escapeChar]
  split
  · exact .inl rfl
  · next h =>
      rw [Bool.or_eq_true, Bool.or_eq_true, beq_iff_eq, beq_iff_eq, not_or, not_or] at h
      refine .inr ⟨rfl, ?_, h.1.2, h.2⟩
      intro h
      subst h
      exact h.1.1 (by decide)

theorem unescape_escapeTag (tag : List Char) : unescape (escapeTag tag) = tag :=
  escapeTag_protects.unescape tag

theorem quotedContent_escapeTag (tag : List Char) : QuotedContent (escapeTag tag) :=
  quotedContent_iff.mpr (escapeTag_protects.escapeAfter? tag)

theorem splitPatterns_escapeTag (tag : List Char) :
    splitPatterns (escapeTag tag) = [escapeTag tag] :=
  splitFrom_of_unsplit (escapeTag_protects.unsplitFrom rfl tag)

theorem escapeTag_append (xs ys : List Char) :
    escapeTag (xs ++ ys) = escapeTag xs ++ escapeTag ys :=
  List.flatMap_append

theorem escapeTag_of_allBlank {cs : List Char} (h : AllBlank cs) : escapeTag cs = cs := by
  induction cs with
  | nil => rfl
  | cons c cs ih =>
      obtain ⟨hc, hcs⟩ := allBlank_cons.mp h
      rw [escapeTag, List.flatMap_cons, if_neg, ← escapeTag, ih hcs]
      · rfl
      · rintro (rfl | rfl | rfl) <;> exact absurd hc (by decide)

theorem escapeTag_trimmed {tag : List Char} (h : trimBlanks tag = tag) :
    trimBlanks (escapeTag tag) = escapeTag tag := by
  cases tag with
  | nil => rfl
  | cons c cs =>
      have hc := not_blank_of_trimBlanks_eq_cons h
      obtain ⟨init, d, htag, hd⟩ := exists_last_of_trimBlanks_eq (List.cons_ne_nil c cs) h
      obtain ⟨last, hlast⟩ : ∃ last, escapeTag (init ++ [d]) = last ++ [d] := by
        have hsingle : escapeTag [d] = _ := List.append_nil _
        rw [escapeTag_append, hsingle]
        rcases escapeTag_protects d with h | ⟨h, -⟩
        · refine ⟨escapeTag init ++ ['\\'], ?_⟩
          rw [List.append_assoc]
          exact congrArg (escapeTag init ++ ·) h
        · exact ⟨escapeTag init, congrArg (escapeTag init ++ ·) h⟩
      rw [← htag] at hlast
      rcases escapeTag_protects c with h | ⟨h, -⟩
      · have hhead : escapeTag (c :: cs) = '\\' :: c :: escapeTag cs :=
          congrArg (· ++ escapeTag cs) h
        rw [hhead] at hlast ⊢
        exact trimBlanks_of_ends (by decide) hd hlast
      · have hhead : escapeTag (c :: cs) = c :: escapeTag cs := congrArg (· ++ escapeTag cs) h
        rw [hhead] at hlast ⊢
        exact trimBlanks_of_ends hc hd hlast

/-- Escaping leaves the blanks at the ends of a name where they are. -/
theorem trimBlanks_escapeTag (tag : List Char) :
    trimBlanks (escapeTag tag) = escapeTag (trimBlanks tag) := by
  obtain ⟨u, v, hu, hv, htag⟩ := exists_eq_trimBlanks tag
  rw [htag, escapeTag_append, escapeTag_append, escapeTag_of_allBlank hu,
    escapeTag_of_allBlank hv, trimBlanks_append hu hv, ← htag]
  exact escapeTag_trimmed (trimBlanks_trimBlanks tag)

/-- The pattern for one text can be written into a group as it is. -/
theorem patternText_literalSource (text : List Char) :
    PatternText (Pattern.literalSource text) := by
  have hshape : Pattern.literalSource text =
      ['^'] ++ text.flatMap Pattern.escapeChar ++ ['$'] := rfl
  refine ⟨List.cons_ne_nil _ _, ?_, ?_, ?_⟩
  · rw [hshape, List.append_assoc, List.singleton_append, trimBlanks,
      dropBlanks_cons_of_not_blank (by decide), ← List.cons_append,
      dropTrailingBlanks_append_cons (by decide)]
    rfl
  · rw [hshape, unsplitFrom_append, unsplitFrom_append]
    exact ⟨⟨⟨by simp, trivial⟩, escapeChar_protects.unsplitFrom rfl text⟩, by simp, trivial⟩
  · rw [hshape, escapeAfter?_append, escapeAfter?_append,
      show escapeAfter? false ['^'] = some false from rfl, Option.bind_some,
      escapeChar_protects.escapeAfter? text]
    exact Option.some_ne_none false

end NodeSieve.Definition
