import NodeSieve.Proofs.Shape

/-!
# Reading the canonical text

The canonical text is meant to be read back as the filter that it was written
for. Three things stand in the way, and this file shows that there are no
others.

The combinators that lowering adds for several types are written out, so they
count as nesting. A test whose patterns stood in groups of their own is
written with one group, and a pattern that leaves a bracket, a parenthesis or
a backslash open in the scanner's eyes (`joinable`) takes the text behind it
along. And a type's name is trimmed before its escapes are resolved, so a
blank at either end of the name is lost, and a name of nothing is refused.

The two directions are different arguments. That a good filter comes back is
a derivation in the grammar. That any other does not is read off the reader:
it takes the canonical text apart at the places where the writer put it
together, unless a pattern swallowed one of them.
-/

namespace NodeSieve.Filter

open NodeSieve.Definition NodeSieve.Unicode

/-- The texts of patterns. -/
def sources (ps : List Pattern) : List (List Char) :=
  ps.map fun p => p.source.toList

/-- Whether the group of a test is read back as what was written into it. -/
def leafReadsBack (ps : List Pattern) : Predicate → Bool
  | .field _ => joinable (sources ps)
  | .genericType tag => tag.toList != [] && trimBlanks tag.toList == tag.toList

mutual

/-- Whether every test of a filter is read back as what was written. -/
def readsBack : Filter → Bool
  | .acceptAll => true
  | .all xs => allReadBack xs
  | .any xs => allReadBack xs
  | .leaf predicate _ ps => leafReadsBack ps predicate
  | .folder => true

def allReadBack : List Filter → Bool
  | [] => true
  | x :: xs => x.readsBack && allReadBack xs

end

theorem allReadBack_iff {xs : List Filter} :
    allReadBack xs = true ↔ ∀ x ∈ xs, x.readsBack = true := by
  induction xs with
  | nil => exact ⟨fun _ => List.forall_mem_nil _, fun _ => rfl⟩
  | cons x xs ih => rw [allReadBack, Bool.and_eq_true, ih, List.forall_mem_cons]

/-! ## What is written -/

/-- The definition of a test's canonical text. -/
def leafDefinition (sign : Sign) (ps : List Pattern) : Predicate → Definition
  | .field f => .field f sign (sources ps)
  | .genericType tag => .type sign [escapeTag tag.toList]

mutual

/-- The definition of a filter's canonical text; there is none for the filter
that accepts everything. -/
def toDefinition : Filter → Definition
  | .acceptAll => .folder
  | .all xs => .all (toDefinitions xs)
  | .any xs => .any (toDefinitions xs)
  | .leaf predicate sign ps => leafDefinition sign ps predicate
  | .folder => .folder

def toDefinitions : List Filter → List Definition
  | [] => []
  | x :: xs => x.toDefinition :: toDefinitions xs

end

theorem toDefinitions_eq_map (xs : List Filter) : toDefinitions xs = xs.map toDefinition := by
  induction xs with
  | nil => rfl
  | cons x xs ih => rw [toDefinitions, List.map_cons, ih]

theorem renderChildren_cons {x : Filter} {xs : List Filter} (hne : xs ≠ []) :
    renderChildren (x :: xs) = renderChars x ++ ',' :: renderChildren xs := by
  cases xs with
  | nil => exact absurd rfl hne
  | cons y ys => rw [renderChildren]; exact hne

theorem renderTest_eq (label : String) (sign : Sign) (content : List Char) :
    renderTest label sign content =
      label.toList ++ [] ++ '(' :: (sign.symbol :: '\'' :: content ++ ['\'']) ++ [')'] := by
  simp only [renderTest, List.append_assoc, List.cons_append, List.nil_append, List.append_nil]

/-- A sign and one quoted group, as they are written. -/
theorem signed_of_group (allowBare : Bool) {content : List Char} {texts : List (List Char)}
    (sign : Sign) (hcontent : QuotedContent content)
    (htexts : (splitPatterns content).map trimBlanks = texts) (hne : [] ∉ texts) :
    Signed allowBare (sign.symbol :: '\'' :: content ++ ['\'']) sign texts := by
  subst htexts
  have harg : Argument allowBare ('\'' :: content ++ ['\'']) _ := .quoted hcontent hne
  have hbody := Separated.one AllBlank.nil harg AllBlank.nil
  rw [List.nil_append, List.append_nil] at hbody
  have htest := Signed.written sign AllBlank.nil hbody
  rwa [List.flatten_singleton] at htest

theorem spells_field {ps : List Pattern} (f : Field) (sign : Sign) (hne : ps ≠ [])
    (hps : ∀ p ∈ ps, PatternText p.source.toList) (hjoin : joinable (sources ps) = true) :
    Spells (renderTest f.label sign (joinWithCommas (sources ps)))
      (.field f sign (sources ps)) := by
  have htexts : ∀ text ∈ sources ps, PatternText text := List.forall_mem_map.mpr hps
  have hne : sources ps ≠ [] := fun h => hne (List.map_eq_nil_iff.mp h)
  have hsplit : (splitPatterns (joinWithCommas (sources ps))).map trimBlanks = sources ps := by
    rw [splitPatterns_joinWithCommas hne (fun text h => (htexts text h).unsplit) hjoin,
      map_trimBlanks_eq htexts]
  rw [renderTest_eq]
  exact .field f AllBlank.nil (signed_of_group false sign
    (quotedContent_joinWithCommas hne htexts hjoin) hsplit fun h => (htexts [] h).ne_nil rfl)

theorem spells_type {tag : List Char} (sign : Sign) (hne : tag ≠ [])
    (htrim : trimBlanks tag = tag) :
    Spells (renderTest "Type" sign (escapeTag tag)) (.type sign [escapeTag tag]) := by
  have hsplit : (splitPatterns (escapeTag tag)).map trimBlanks = [escapeTag tag] := by
    rw [splitPatterns_escapeTag, List.map_singleton, trimBlanks_escapeTag, htrim]
  have hnonempty : [] ∉ [escapeTag tag] := by
    intro h
    rw [← unescape_escapeTag tag, ← List.mem_singleton.mp h] at hne
    exact hne rfl
  rw [renderTest_eq]
  exact .type AllBlank.nil
    (signed_of_group true sign (quotedContent_escapeTag tag) hsplit hnonempty)

theorem separated_renderChildren {xs : List Filter} (hne : xs ≠ [])
    (hxs : ∀ x ∈ xs, Spells x.renderChars x.toDefinition) :
    Separated Spells (renderChildren xs) (toDefinitions xs) := by
  induction xs, hne using List.recNeNil with
  | singleton x =>
      have hone :=
        Separated.one AllBlank.nil (hxs x (List.mem_singleton_self x)) AllBlank.nil
      rw [List.nil_append, List.append_nil] at hone
      exact hone
  | cons x xs hne ih =>
      obtain ⟨hx, hxs⟩ := List.forall_mem_cons.mp hxs
      have hmore := Separated.more AllBlank.nil hx AllBlank.nil (ih hxs)
      rw [List.nil_append, List.append_nil] at hmore
      rw [renderChildren_cons hne]
      exact hmore

/-- The canonical text spells the filter's own definition. -/
theorem spells_toDefinition {options : ParseOptions} {t : Filter} (ht : Shaped options t)
    (hback : t.readsBack = true) : Spells t.renderChars t.toDefinition := by
  induction ht with
  | folder => exact .folder AllBlank.nil AllBlank.nil
  | @all xs hne _ ih =>
      have hbody := separated_renderChildren hne fun x hx =>
        ih x hx (allReadBack_iff.mp hback x hx)
      have := Spells.all AllBlank.nil hbody
      rwa [renderChars, toDefinition]
  | @any xs hne _ ih =>
      have hbody := separated_renderChildren hne fun x hx =>
        ih x hx (allReadBack_iff.mp hback x hx)
      have := Spells.any AllBlank.nil hbody
      rwa [renderChars, toDefinition]
  | field hne hps => exact spells_field _ _ hne (fun p hp => (hps p hp).1) hback
  | generic _ _ =>
      rw [readsBack, leafReadsBack, Bool.and_eq_true, bne_iff_ne, beq_iff_eq] at hback
      exact spells_type _ hback.1 hback.2

/-- The definition of the canonical text is lowered to the filter again. -/
theorem lower_toDefinition {options : ParseOptions} {t : Filter} (ht : Shaped options t) :
    t.toDefinition.lower options = .ok t := by
  have hall : ∀ {xs : List Filter}, (∀ x ∈ xs, x.toDefinition.lower options = .ok x) →
      lowerAll options (toDefinitions xs) = .ok xs := by
    intro xs hxs
    rw [lowerAll_eq_ok_iff, toDefinitions_eq_map]
    exact List.forall₂_map_left_iff.mpr (List.forall₂_same.mpr hxs)
  induction ht with
  | folder => rw [toDefinition, lower]
  | all _ _ ih => rw [toDefinition, lower, hall ih]; rfl
  | any _ _ ih => rw [toDefinition, lower, hall ih]; rfl
  | @field f sign ps _ hps =>
      have hlower : lowerPatterns options f.label (sources ps) = .ok ps :=
        lowerPatterns_eq_ok_iff.mpr <|
          List.forall₂_map_left_iff.mpr (List.forall₂_same.mpr fun p hp => (hps p hp).2)
      rw [toDefinition, leafDefinition, lower, hlower]
      rfl
  | @generic tag sign p hp htag =>
      have hleaf : lowerType options sign (escapeTag tag.toList) =
          .ok (.leaf (.genericType tag) sign [p]) := by
        refine lowerType_eq_ok_iff.mpr ⟨p, ?_, ?_⟩
        · rw [unescape_escapeTag, hp]
        · rw [unescape_escapeTag, htag]
      have hleaves := lowerTypes_eq_ok_iff.mpr (.cons hleaf .nil)
      rw [toDefinition, leafDefinition, lower, hleaves]
      rfl

theorem maxDepth_eq {xs : List Filter} (hne : xs ≠ [])
    (hxs : ∀ x ∈ xs, x.depth = x.toDefinition.nesting + 1) :
    maxDepth xs = maxNesting (toDefinitions xs) + 1 := by
  induction xs, hne using List.recNeNil with
  | singleton x =>
      rw [maxDepth, toDefinitions, maxNesting, hxs x (List.mem_singleton_self x), maxDepth,
        toDefinitions, maxNesting, Nat.max_zero, Nat.max_zero]
  | cons x xs _ ih =>
      obtain ⟨hx, hxs⟩ := List.forall_mem_cons.mp hxs
      rw [maxDepth, toDefinitions, maxNesting, hx, ih hxs, Nat.add_max_add_right]

/-- The combinators of the canonical text are those of the filter. -/
theorem depth_eq {options : ParseOptions} {t : Filter} (ht : Shaped options t) :
    t.depth = t.toDefinition.nesting + 1 := by
  induction ht with
  | folder => rfl
  | all hne _ ih => rw [depth, toDefinition, nesting, maxDepth_eq hne ih]
  | any hne _ ih => rw [depth, toDefinition, nesting, maxDepth_eq hne ih]
  | field => rfl
  | generic => rfl

theorem beq_iff_sources_eq {ps qs : List Pattern} :
    (ps == qs) = true ↔ sources ps = sources qs := by
  induction ps generalizing qs with
  | nil => cases qs <;> simp [sources]
  | cons p ps ih =>
      cases qs with
      | nil => simp [sources]
      | cons q qs =>
          have hpattern : (p == q) = true ↔ p.source.toList = q.source.toList := by
            rw [String.toList_inj]
            exact beq_iff_eq (a := p.source)
          rw [List.cons_beq_cons, Bool.and_eq_true, hpattern, ih, sources, sources, sources,
            sources, List.map_cons, List.map_cons, List.cons.injEq]

mutual

theorem same_self : (t : Filter) → t.same t = true
  | .acceptAll => rfl
  | .all xs => sameAll_self xs
  | .any xs => sameAll_self xs
  | .leaf _ _ ps => by
      rw [same, beq_self_eq_true, beq_self_eq_true, beq_iff_sources_eq.mpr rfl]
      rfl
  | .folder => rfl

theorem sameAll_self : (xs : List Filter) → sameAll xs xs = true
  | [] => rfl
  | x :: xs => by
      rw [sameAll, same_self x, sameAll_self xs]
      rfl

end

/-! ## What is read -/

/-- A group that is read from where a text was written into one: the text, and
perhaps more, which then starts at the quote behind it. -/
theorem exists_extension {content group tail behind : List Char}
    (hcontent : escapeAfter? false content ≠ none) (hgroup : QuotedContent group)
    (h : content ++ '\'' :: tail = group ++ '\'' :: behind) :
    ∃ ext, group = content ++ ext ∧ (∀ c ∈ ext.head?, c = '\'') ∧
      (ext = [] → behind = tail) := by
  rcases List.append_eq_append_iff.mp h with ⟨ext, rfl, htail⟩ | ⟨cut, rfl, hbehind⟩
  · refine ⟨ext, rfl, ?_, ?_⟩
    · intro c hc
      cases ext with
      | nil => cases hc
      | cons d ext =>
          rw [← Option.some.inj hc]
          exact (List.cons.inj htail).1.symm
    · intro h
      subst h
      exact (List.cons.inj htail).2.symm
  · cases cut with
    | nil =>
        refine ⟨[], by simp, nofun, fun _ => ?_⟩
        exact (List.cons.inj hbehind).2
    | cons c cut =>
        -- The group would have closed inside of the text.
        obtain ⟨rfl, -⟩ := List.cons.inj hbehind
        rw [escapeAfter?_append, quotedContent_iff.mp hgroup] at hcontent
        exact absurd rfl hcontent

/-- What a test is read as from where one quoted group was written: the group
that is read there, and what further arguments give. -/
theorem readTest_of_group {owner : String} {allowBare : Bool} {sign sign' : Sign}
    {content rest rest' : List Char} {texts : List (List Char)}
    (hcontent : escapeAfter? false content ≠ none)
    (h : readTest owner allowBare
      ('(' :: sign.symbol :: '\'' :: content ++ '\'' :: ')' :: rest) =
        .ok ((sign', texts), rest')) :
    sign' = sign ∧ ∃ ext more, QuotedContent (content ++ ext) ∧
      (∀ c ∈ ext.head?, c = '\'') ∧
      texts = (splitPatterns (content ++ ext)).map trimBlanks ++ more ∧
      [] ∉ (splitPatterns (content ++ ext)).map trimBlanks ∧
      (ext = [] → more = [] ∧ rest' = rest) := by
  have hopen : expectSymbol '(' ('(' :: sign.symbol :: '\'' :: content ++ '\'' :: ')' :: rest) =
      .ok (sign.symbol :: '\'' :: content ++ '\'' :: ')' :: rest) :=
    (expectSymbol_eq_ok_iff (by decide)).mpr ⟨[], AllBlank.nil, rfl⟩
  have hsign : readSign (sign.symbol :: '\'' :: content ++ '\'' :: ')' :: rest) =
      (sign, '\'' :: content ++ '\'' :: ')' :: rest) := readSign_written sign AllBlank.nil
  rw [readTest, hopen] at h
  simp only [hsign] at h
  obtain ⟨⟨texts', rest''⟩, hargs, heq⟩ := map_eq_ok_iff.mp h
  obtain ⟨htest, rfl⟩ := Prod.mk.inj heq
  obtain ⟨rfl, rfl⟩ := Prod.mk.inj htest
  refine ⟨rfl, ?_⟩
  rw [List.cons_append, List.length_cons, readArguments, readArgument,
    dropBlanks_cons_of_not_blank (by decide)] at hargs
  simp only [if_pos] at hargs
  split at hargs
  · cases hargs
  · next first behind hread =>
      obtain ⟨group, hgroup, hsource, rfl, hne⟩ := readGroup_eq_ok_iff.mp hread
      obtain ⟨ext, rfl, hext, hbehind⟩ := exists_extension hcontent hgroup hsource
      split at hargs
      · next tail hdrop =>
          obtain ⟨⟨more, tail'⟩, hmore, heq⟩ := map_eq_ok_iff.mp hargs
          obtain ⟨rfl, rfl⟩ := Prod.mk.inj heq
          refine ⟨ext, more, hgroup, hext, rfl, hne, fun hnil => ?_⟩
          rw [hbehind hnil, dropBlanks_cons_of_not_blank (by decide)] at hdrop
          exact absurd (List.cons.inj hdrop).1 (by decide)
      · next tail hdrop =>
          obtain ⟨rfl, rfl⟩ := Prod.mk.inj (Except.ok.inj hargs)
          refine ⟨ext, [], hgroup, hext, (List.append_nil _).symm, hne, fun hnil => ⟨rfl, ?_⟩⟩
          rw [hbehind hnil, dropBlanks_cons_of_not_blank (by decide)] at hdrop
          exact (List.cons.inj hdrop).2.symm
      · cases hargs

theorem readName_of_word {name cs : List Char} {c : Char} (hne : name ≠ [])
    (hname : name.all isNameChar = true) (hc : isNameChar c = false) :
    readName (dropBlanks (name ++ c :: cs)) = (name, c :: cs) := by
  obtain ⟨d, ds, rfl⟩ := List.exists_cons_of_ne_nil hne
  have hd := not_blank_of_isNameChar (List.all_eq_true.mp hname d (List.mem_cons_self ..))
  rw [List.cons_append, dropBlanks_cons_of_not_blank hd]
  exact readName_append hname AllBlank.nil hc

theorem renderTest_append (label : String) (sign : Sign) (content rest : List Char) :
    renderTest label sign content ++ rest =
      label.toList ++ '(' :: (sign.symbol :: '\'' :: content ++ '\'' :: ')' :: rest) := by
  simp only [renderTest, List.append_assoc, List.cons_append, List.nil_append]

theorem sources_of_forall₂ {options : PatternOptions} {texts : List (List Char)}
    {ps : List Pattern}
    (h : List.Forall₂ (fun text p => Pattern.ofChars options text = .ok p) texts ps) :
    sources ps = texts := by
  induction h with
  | nil => rfl
  | cons hp _ ih =>
      rw [sources, List.map_cons, source_of_ofChars hp]
      exact congrArg (_ :: ·) ih

theorem texts_of_lower_field {options : ParseOptions} {f : Field} {sign sign' : Sign}
    {texts : List (List Char)} {predicate : Predicate} {ps : List Pattern} {t : Filter}
    (hlower : (Definition.field f sign texts).lower options = .ok t)
    (hsame : t.same (.leaf predicate sign' ps) = true) : texts = sources ps := by
  rw [lower] at hlower
  obtain ⟨qs, hqs, rfl⟩ := map_eq_ok_iff.mp hlower
  rw [same, Bool.and_eq_true, beq_iff_sources_eq] at hsame
  rw [← hsame.2, sources_of_forall₂ (lowerPatterns_eq_ok_iff.mp hqs)]

theorem name_of_lower_type {options : ParseOptions} {sign sign' : Sign} {literal : List Char}
    {tag : String} {ps : List Pattern} {t : Filter}
    (hlower : (Definition.type sign [literal]).lower options = .ok t)
    (hsame : t.same (.leaf (.genericType tag) sign' ps) = true) :
    unescape literal = tag.toList := by
  rw [lower] at hlower
  obtain ⟨leaves, hleaves, rfl⟩ := map_eq_ok_iff.mp hlower
  obtain ⟨leaf, _, hleaf, hnil, rfl⟩ :=
    List.forall₂_cons_left_iff.mp (lowerTypes_eq_ok_iff.mp hleaves)
  rw [List.forall₂_nil_left_iff.mp hnil] at hsame
  obtain ⟨p, -, rfl⟩ := lowerType_eq_ok_iff.mp hleaf
  rw [joinTypes, same, Bool.and_eq_true, Bool.and_eq_true, beq_iff_eq] at hsame
  exact resolve_generic hsame.1.1

section

variable {options : ParseOptions} {limit levels : Nat} {rest rest' : List Char}

theorem field_of_read {f : Field} {sign : Sign} {ps : List Pattern} {d : Definition}
    {t : Filter} (hne : ps ≠ []) (hps : ∀ p ∈ ps, PatternText p.source.toList)
    (hread : readFilter limit levels
      (renderTest f.label sign (joinWithCommas (sources ps)) ++ rest) = .ok (d, rest'))
    (hlower : d.lower options = .ok t) (hsame : t.same (.leaf (.field f) sign ps) = true) :
    joinable (sources ps) = true ∧ rest' = rest := by
  have htexts : ∀ text ∈ sources ps, PatternText text := List.forall_mem_map.mpr hps
  have hne : sources ps ≠ [] := fun h => hne (List.map_eq_nil_iff.mp h)
  have hlabel : f.label.toList ≠ [] := by cases f <;> decide
  rw [renderTest_append,
    readFilter_field (readName_of_word hlabel (label_all_isNameChar f) (by decide))] at hread
  obtain ⟨⟨⟨sign', texts⟩, rest''⟩, htest, heq⟩ := map_eq_ok_iff.mp hread
  obtain ⟨rfl, rfl⟩ := Prod.mk.inj heq
  obtain ⟨-, ext, more, hgroup, hext, heqtexts, -, hnil⟩ :=
    readTest_of_group (joinWithCommas_unquoted hne htexts) htest
  have hprefix : (splitPatterns (joinWithCommas (sources ps) ++ ext)).map trimBlanks <+:
      sources ps := ⟨more, by rw [← heqtexts]; exact texts_of_lower_field hlower hsame⟩
  obtain ⟨hjoin, hclosed⟩ := joinable_of_prefix hne htexts hext hgroup hprefix
  exact ⟨hjoin, (hnil hclosed).2⟩

theorem type_of_read {tag : String} {sign : Sign} {ps : List Pattern} {d : Definition}
    {t : Filter}
    (hread : readFilter limit levels
      (renderTest "Type" sign (escapeTag tag.toList) ++ rest) = .ok (d, rest'))
    (hlower : d.lower options = .ok t)
    (hsame : t.same (.leaf (.genericType tag) sign ps) = true) :
    (tag.toList ≠ [] ∧ trimBlanks tag.toList = tag.toList) ∧ rest' = rest := by
  have htext : renderTest "Type" sign (escapeTag tag.toList) ++ rest = ['T', 'y', 'p', 'e'] ++
      '(' :: (sign.symbol :: '\'' :: escapeTag tag.toList ++ '\'' :: ')' :: rest) :=
    renderTest_append "Type" sign (escapeTag tag.toList) rest
  rw [htext, readFilter_type (readName_of_word (by decide) (by decide) (by decide))] at hread
  obtain ⟨⟨⟨sign', texts⟩, rest''⟩, htest, heq⟩ := map_eq_ok_iff.mp hread
  obtain ⟨rfl, rfl⟩ := Prod.mk.inj heq
  have hclosed := quotedContent_iff.mp (quotedContent_escapeTag tag.toList)
  obtain ⟨-, ext, more, hgroup, hext, heqtexts, hnonempty, hnil⟩ :=
    readTest_of_group (by rw [hclosed]; exact Option.some_ne_none false) htest
  obtain rfl : ext = [] := by
    rw [quotedContent_iff, escapeAfter?_append, hclosed, Option.bind_some] at hgroup
    cases ext with
    | nil => rfl
    | cons c ext =>
        rw [hext c rfl] at hgroup
        cases hgroup
  obtain ⟨rfl, rfl⟩ := hnil rfl
  simp only [List.append_nil, splitPatterns_escapeTag, List.map_singleton,
    trimBlanks_escapeTag] at heqtexts hnonempty
  subst heqtexts
  have htrim := name_of_lower_type hlower hsame
  rw [unescape_escapeTag] at htrim
  refine ⟨⟨?_, htrim⟩, rfl⟩
  intro htag
  rw [htag] at hnonempty
  exact hnonempty (List.mem_singleton_self _)

/-- A filter whose canonical text, wherever it stands, is read back as the
filter only within the levels that it needs and if its tests are read back. -/
def GivenBack (options : ParseOptions) (limit : Nat) (t : Filter) : Prop :=
  ∀ {levels : Nat} {rest rest' : List Char} {d : Definition} {t' : Filter},
    readFilter limit levels (t.renderChars ++ rest) = .ok (d, rest') →
    d.lower options = .ok t' → t'.same t = true →
      t.readsBack = true ∧ t.depth ≤ levels + 1 ∧ rest' = rest

/-- The first of some siblings, and what stands behind it. -/
theorem first_of_read {child : List Char → Read Definition} {bound : Nat} {cs : List Char}
    {ds : List Definition} (h : readSiblings child bound cs = .ok (ds, rest')) :
    ∃ d behind more, child cs = .ok (d, behind) ∧ ds = d :: more ∧
      (∀ tail, dropBlanks behind = ',' :: tail →
        ∃ bound, readSiblings child bound tail = .ok (more, rest')) ∧
      (∀ tail, dropBlanks behind = '\x7d' :: tail → more = [] ∧ rest' = tail) := by
  cases bound with
  | zero => cases h
  | succ bound =>
      rw [readSiblings] at h
      split at h
      · cases h
      · next d behind hchild =>
          split at h
          · next tail hdrop =>
              obtain ⟨⟨more, tail'⟩, hmore, heq⟩ := map_eq_ok_iff.mp h
              obtain ⟨rfl, rfl⟩ := Prod.mk.inj heq
              refine ⟨d, behind, more, hchild, rfl, ?_, ?_⟩
              · intro tail' htail
                rw [hdrop] at htail
                obtain ⟨-, rfl⟩ := List.cons.inj htail
                exact ⟨bound, hmore⟩
              · intro tail' htail
                rw [hdrop] at htail
                exact absurd (List.cons.inj htail).1 (by decide)
          · next tail hdrop =>
              obtain ⟨rfl, rfl⟩ := Prod.mk.inj (Except.ok.inj h)
              refine ⟨d, behind, [], hchild, rfl, ?_, ?_⟩
              · intro tail' htail
                rw [hdrop] at htail
                exact absurd (List.cons.inj htail).1 (by decide)
              · intro tail' htail
                rw [hdrop] at htail
                exact ⟨rfl, (List.cons.inj htail).2⟩
          · cases h

theorem siblings_of_read {xs ys : List Filter} {bound : Nat} {ds : List Definition}
    (hne : xs ≠ []) (hxs : ∀ x ∈ xs, GivenBack options limit x)
    (hread : readSiblings (readFilter limit levels) bound
      (renderChildren xs ++ '\x7d' :: rest) = .ok (ds, rest'))
    (hlower : lowerAll options ds = .ok ys) (hsame : sameAll ys xs = true) :
    allReadBack xs = true ∧ maxDepth xs ≤ levels + 1 ∧ rest' = rest := by
  induction xs, hne using List.recNeNil generalizing bound ds ys with
  | singleton x =>
      obtain ⟨d, behind, more, hchild, rfl, -, hbrace⟩ := first_of_read hread
      obtain ⟨y, ys, hy, -, rfl⟩ :=
        List.forall₂_cons_left_iff.mp (lowerAll_eq_ok_iff.mp hlower)
      rw [sameAll, Bool.and_eq_true] at hsame
      obtain ⟨hback, hdepth, rfl⟩ := hxs x (List.mem_singleton_self x) hchild hy hsame.1
      obtain ⟨-, rfl⟩ := hbrace rest (dropBlanks_cons_of_not_blank (by decide))
      rw [allReadBack, hback, maxDepth]
      exact ⟨rfl, Nat.max_le.mpr ⟨hdepth, Nat.zero_le _⟩, rfl⟩
  | cons x xs hne ih =>
      obtain ⟨hx, hxs⟩ := List.forall_mem_cons.mp hxs
      obtain ⟨d, behind, more, hchild, rfl, hcomma, -⟩ := first_of_read hread
      obtain ⟨y, ys, hy, hys, rfl⟩ :=
        List.forall₂_cons_left_iff.mp (lowerAll_eq_ok_iff.mp hlower)
      rw [sameAll, Bool.and_eq_true] at hsame
      rw [renderChildren_cons hne, List.append_assoc, List.cons_append] at hchild
      obtain ⟨hback, hdepth, rfl⟩ := hx hchild hy hsame.1
      obtain ⟨bound, hmore⟩ := hcomma _ (dropBlanks_cons_of_not_blank (by decide))
      obtain ⟨hbacks, hdepths, hrest⟩ := ih hxs hmore (lowerAll_eq_ok_iff.mpr hys) hsame.2
      rw [allReadBack, hback, hbacks, maxDepth]
      exact ⟨rfl, Nat.max_le.mpr ⟨hdepth, hdepths⟩, hrest⟩

/-- Blanks in front of a filter do not matter, so they do not in front of
siblings. -/
theorem siblings_of_dropBlanks {bound : Nat} {cs : List Char} {ds : List Definition}
    (h : readSiblings (readFilter limit levels) bound (dropBlanks cs) = .ok (ds, rest')) :
    readSiblings (readFilter limit levels) bound cs = .ok (ds, rest') := by
  have hchild := readFilter_dropBlanks limit levels cs
  cases bound with
  | zero => cases h
  | succ bound =>
      rw [readSiblings, hchild] at h
      rw [readSiblings]
      exact h

theorem children_of_read {xs ys : List Filter} {ds : List Definition}
    (hne : xs ≠ []) (hxs : ∀ x ∈ xs, GivenBack options limit x)
    (hread : readChildren (readFilter limit levels)
      ('\x7b' :: (renderChildren xs ++ '\x7d' :: rest)) = .ok (ds, rest'))
    (hlower : lowerAll options ds = .ok ys) (hsame : sameAll ys xs = true) :
    allReadBack xs = true ∧ maxDepth xs ≤ levels + 1 ∧ rest' = rest := by
  have hopen : expectSymbol '\x7b' ('\x7b' :: (renderChildren xs ++ '\x7d' :: rest)) =
      .ok (renderChildren xs ++ '\x7d' :: rest) :=
    (expectSymbol_eq_ok_iff (by decide)).mpr ⟨[], AllBlank.nil, rfl⟩
  rw [readChildren, hopen] at hread
  simp only [] at hread
  split at hread
  · cases hread
  · exact siblings_of_read hne hxs (siblings_of_dropBlanks hread) hlower hsame

theorem givenBack_of_shaped {t : Filter} (ht : Shaped options t) :
    GivenBack options limit t := by
  induction ht with
  | folder =>
      intro levels rest rest' d t' hread hlower hsame
      have hname : readName (dropBlanks (['F', 'o', 'l', 'd', 'e', 'r'] ++ '(' :: ')' :: rest)) =
          (['F', 'o', 'l', 'd', 'e', 'r'], '(' :: ')' :: rest) :=
        readName_of_word (by decide) (by decide) (by decide)
      have hnone : readNoArguments ('(' :: ')' :: rest) = .ok ((), rest) :=
        readNoArguments_eq_ok_iff.mpr ⟨[], [], AllBlank.nil, AllBlank.nil, rfl⟩
      have htext : renderChars .folder ++ rest =
          ['F', 'o', 'l', 'd', 'e', 'r'] ++ '(' :: ')' :: rest := rfl
      rw [htext, readFilter_folder hname, hnone] at hread
      obtain ⟨-, rfl⟩ := Prod.mk.inj (Except.ok.inj hread)
      exact ⟨rfl, Nat.le_add_left 1 levels, rfl⟩
  | @all xs hne _ ih =>
      intro levels rest rest' d t' hread hlower hsame
      have htext : renderChars (.all xs) ++ rest =
          ['a', 'n', 'd'] ++ '\x7b' :: (renderChildren xs ++ '\x7d' :: rest) := by
        simp only [renderChars, List.append_assoc, List.cons_append, List.nil_append]
      rw [htext, readFilter_combinator_eq_ok_iff .all
        (readName_of_word (by decide) (by decide) (by decide))] at hread
      obtain ⟨inner, ds, rfl, hchildren, rfl⟩ := hread
      obtain ⟨ys, hys, rfl⟩ := map_eq_ok_iff.mp hlower
      obtain ⟨hback, hdepth, hrest⟩ := children_of_read hne ih hchildren hys hsame
      exact ⟨hback, Nat.succ_le_succ hdepth, hrest⟩
  | @any xs hne _ ih =>
      intro levels rest rest' d t' hread hlower hsame
      have htext : renderChars (.any xs) ++ rest =
          ['o', 'r'] ++ '\x7b' :: (renderChildren xs ++ '\x7d' :: rest) := by
        simp only [renderChars, List.append_assoc, List.cons_append, List.nil_append]
      rw [htext, readFilter_combinator_eq_ok_iff .any
        (readName_of_word (by decide) (by decide) (by decide))] at hread
      obtain ⟨inner, ds, rfl, hchildren, rfl⟩ := hread
      obtain ⟨ys, hys, rfl⟩ := map_eq_ok_iff.mp hlower
      obtain ⟨hback, hdepth, hrest⟩ := children_of_read hne ih hchildren hys hsame
      exact ⟨hback, Nat.succ_le_succ hdepth, hrest⟩
  | field hne hps =>
      intro levels rest rest' d t' hread hlower hsame
      obtain ⟨hjoin, hrest⟩ := field_of_read hne (fun p hp => (hps p hp).1) hread hlower hsame
      exact ⟨hjoin, Nat.le_add_left 1 levels, hrest⟩
  | generic _ _ =>
      intro levels rest rest' d t' hread hlower hsame
      obtain ⟨htag, hrest⟩ := type_of_read hread hlower hsame
      refine ⟨?_, Nat.le_add_left 1 levels, hrest⟩
      rw [readsBack, leafReadsBack, Bool.and_eq_true, bne_iff_ne, beq_iff_eq]
      exact htag

end

end NodeSieve.Filter

namespace NodeSieve.CompiledFilter

open NodeSieve.Definition NodeSieve.Filter NodeSieve.Unicode

theorem compile_ofList_eq_ok_iff {options : ParseOptions} {cs : List Char}
    {c : CompiledFilter} :
    compile options (String.ofList cs) = .ok c ↔
      Filter.ofChars options cs = .ok c.root ∧ c.source = String.ofList cs := by
  rw [compile_eq_ok_iff, Filter.parse, String.toList_ofList]
  exact and_comm

theorem compile_render_eq_ok_iff {options : ParseOptions} {t : Filter} {c : CompiledFilter} :
    compile options t.render = .ok c ↔
      Filter.ofChars options t.renderChars = .ok c.root ∧ c.source = t.render :=
  compile_ofList_eq_ok_iff

/-- A definition whose compiled filter is not the one that another text gives,
for an evaluation that has come to this. -/
theorem not_same_of_bind {source : String} {text : CompiledFilter → String}
    (h : ((compile .default source).bind fun c =>
      (compile .default (text c)).map fun c' => c'.root == c.root) = .ok false) :
    ¬ ∀ c, compile .default source = .ok c →
      ∃ c', compile .default (text c) = .ok c' ∧ (c'.root == c.root) = true := by
  intro hsame
  cases hc : compile .default source with
  | error e =>
      rw [hc] at h
      cases h
  | ok c =>
      obtain ⟨c', hc', hroot⟩ := hsame c hc
      rw [hc] at h
      obtain ⟨c'', hc'', hdiffers⟩ := map_eq_ok_iff.mp h
      rw [← Except.ok.inj (hc'.symm.trans hc''), hroot] at hdiffers
      cases hdiffers

/-- The canonical text of a compiled filter compiles to the same filter
exactly if its combinators stay within the limit on nesting, each test's
patterns can share one group, and the types that are tested by name have names
without blanks at their ends. -/
theorem compile_render_iff {options : ParseOptions} {source : String} {c : CompiledFilter}
    (h : compile options source = .ok c) :
    (∃ c', compile options c.render = .ok c' ∧ (c'.root == c.root) = true) ↔
      c.root.depth ≤ options.maxDepth.toNat + 1 ∧ c.root.readsBack = true := by
  obtain ⟨t, ht, rfl⟩ := map_eq_ok_iff.mp h
  rw [render]
  rcases shaped_of_ofChars ht with rfl | ht
  · refine ⟨fun _ => ⟨Nat.le_add_left 1 _, rfl⟩, fun _ => ?_⟩
    exact ⟨⟨"", .acceptAll⟩, compile_render_eq_ok_iff.mpr ⟨rfl, rfl⟩, rfl⟩
  · constructor
    · intro h
      obtain ⟨c', hc', hsame⟩ := h
      obtain ⟨hroot, -⟩ := compile_render_eq_ok_iff.mp hc'
      have hsame : c'.root.same t = true := hsame
      rw [Filter.ofChars] at hroot
      split at hroot
      · cases hroot
      · rw [← Except.ok.inj hroot] at hsame
        cases ht <;> cases hsame
      · next d hread =>
          obtain ⟨rest, hread⟩ := readFilter_of_read hread
          rw [← List.append_nil t.renderChars] at hread
          obtain ⟨hback, hdepth, -⟩ := givenBack_of_shaped ht hread hroot hsame
          exact ⟨hdepth, hback⟩
    · intro h
      obtain ⟨hdepth, hback⟩ := h
      refine ⟨⟨t.render, t⟩, compile_render_eq_ok_iff.mpr ⟨?_, rfl⟩, same_self t⟩
      have hspelled : SpelledBy t.toDefinition ([] ++ t.renderChars ++ []) :=
        .intro AllBlank.nil (spells_toDefinition ht hback) AllBlank.nil
      rw [List.nil_append, List.append_nil] at hspelled
      have hnesting : t.toDefinition.nesting ≤ options.maxDepth.toNat := by
        have hdepth : t.depth ≤ options.maxDepth.toNat + 1 := hdepth
        rw [depth_eq ht] at hdepth
        exact Nat.le_of_succ_le_succ hdepth
      rw [Filter.ofChars, read_eq_some_iff.mpr ⟨hspelled, hnesting⟩]
      exact lower_toDefinition ht

theorem compile_render_of_nested :
    ∃ c, compile .default "or\x7b Type(- b, 'c\\, d'), Name('^a', '[,]?') \x7d" = .ok c ∧
      ∃ c', compile .default c.render = .ok c' ∧ (c'.root == c.root) = true := by
  have hgood :
      ((compile .default "or\x7b Type(- b, 'c\\, d'), Name('^a', '[,]?') \x7d").map fun c =>
        decide (c.root.depth ≤ ParseOptions.default.maxDepth.toNat + 1) && c.root.readsBack) =
      .ok true := by
    decide +kernel
  obtain ⟨c, hc, hgood⟩ := map_eq_ok_iff.mp hgood
  rw [Bool.and_eq_true, decide_eq_true_eq] at hgood
  exact ⟨c, hc, (compile_render_iff hc).mpr hgood⟩

/-- The name of a type that starts with a blank loses it on the way back. -/
theorem compile_render_of_blank_tag :
    ¬ ∀ c, compile .default "Type('\\ a')" = .ok c →
      ∃ c', compile .default c.render = .ok c' ∧ (c'.root == c.root) = true := by
  have hdiffers : ((compile .default "Type('\\ a')").bind fun c =>
      (compile .default c.render).map fun c' => c'.root == c.root) = .ok false := by
    decide +kernel
  exact not_same_of_bind hdiffers

end NodeSieve.CompiledFilter
