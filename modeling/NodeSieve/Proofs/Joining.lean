import NodeSieve.Proofs.Canonical
import NodeSieve.Proofs.Pieces

/-!
# Several groups and one

A test may give its patterns in groups of their own or in one group with
commas between. The canonical text always does the latter, as if it made no
difference.

It makes none as long as every group leaves the scanner where it started:
then the comma that comes to stand behind the group separates, and the
patterns of the row are found again one group after another. A group that
leaves the scanner anywhere else takes the comma along. Its last pattern grows,
and a pattern that has grown is not the one that it was.

So this is a question about the last pattern of each group, and a pattern
that compiles need not have the answer wanted: the scanner and the regex
reader agree only on plain pieces.
-/

namespace NodeSieve

open NodeSieve.Unicode

namespace Definition

open NodeSieve.Filter

/-! ## The texts of a row of groups -/

theorem splitPatterns_append_comma (content rest : List Char)
    (hstart : Scan.start.after content = .start) :
    splitPatterns (content ++ ',' :: rest) = splitPatterns content ++ splitPatterns rest := by
  obtain ⟨front, last, hcontent, -, hbehind⟩ := exists_last_pattern content
  have hcomma : splitFrom (Scan.start.after content) (',' :: rest) = [] :: splitPatterns rest := by
    rw [hstart]
    exact splitPatterns_comma (p := []) trivial rfl
  rw [hbehind hcomma, hcontent, List.append_nil, List.append_assoc, List.singleton_append]

/-- A comma that does not separate goes on with the last pattern in front. -/
theorem groupTexts_append_comma_ne (content rest : List Char) (more : List (List Char))
    (hopen : (Scan.start.after content).separatesAt = false) :
    groupTexts (content ++ ',' :: rest) ≠ groupTexts content ++ more := by
  obtain ⟨front, last, hcontent, -, hbehind⟩ := exists_last_pattern content
  have hswallowed : ¬ (',' = ',' ∧ (Scan.start.after content).separatesAt = true) := by
    rw [hopen]
    exact fun h => Bool.false_ne_true h.2
  obtain ⟨piece, pieces, hcomma⟩ :
      ∃ piece pieces, splitFrom (Scan.start.after content) (',' :: rest) =
        (',' :: piece) :: pieces :=
    exists_splitFrom_append_cons (p := []) trivial hswallowed
  rw [groupTexts, groupTexts, hbehind hcomma, hcontent, List.map_append, List.map_append,
    List.append_assoc]
  intro h
  have hlast := (List.cons.inj (List.append_cancel_left h)).1
  exact trimBlanks_append_cons_ne (by decide) hlast

theorem not_escaped_of_quotedContent {content : List Char} (h : QuotedContent content) :
    (Scan.start.after content).escaped = false :=
  escaped_after (s := .start) (quotedContent_iff.mp h)

section

variable {contents : List (List Char)}

theorem quotedContent_joined (hne : contents ≠ [])
    (hcontents : ∀ content ∈ contents, QuotedContent content) :
    QuotedContent (joinWithCommas contents) := by
  induction contents, hne using List.recNeNil with
  | singleton content => exact List.forall_mem_singleton.mp hcontents
  | cons content contents hne ih =>
      obtain ⟨hcontent, hcontents⟩ := List.forall_mem_cons.mp hcontents
      rw [quotedContent_iff, joinWithCommas_cons hne, escapeAfter?_append,
        quotedContent_iff.mp hcontent, Option.bind_some, escapeAfter?_plain (by decide) (by decide)]
      exact quotedContent_iff.mp (ih hcontents)

/-- The texts of some groups are those of the one group exactly if the scanner
comes out of each group that a comma follows as it went in. -/
theorem groupTexts_joined_iff (hne : contents ≠ [])
    (hcontents : ∀ content ∈ contents, QuotedContent content) :
    groupTexts (joinWithCommas contents) = contents.flatMap groupTexts ↔
      joinable contents = true := by
  induction contents, hne using List.recNeNil with
  | singleton content =>
      have hcontent := List.forall_mem_singleton.mp hcontents
      rw [joinable, not_escaped_of_quotedContent hcontent, List.flatMap_singleton]
      exact ⟨fun _ => rfl, fun _ => rfl⟩
  | cons content contents hne ih =>
      obtain ⟨-, hcontents⟩ := List.forall_mem_cons.mp hcontents
      rw [List.flatMap_cons, joinWithCommas_cons hne, joinable_cons hne, Bool.and_eq_true]
      cases hsep : (Scan.start.after content).separatesAt with
      | true =>
          have hstart := Scan.after_eq_start_iff.mpr hsep
          have htexts : groupTexts (content ++ ',' :: joinWithCommas contents) =
              groupTexts content ++ groupTexts (joinWithCommas contents) := by
            rw [groupTexts, splitPatterns_append_comma content _ hstart, List.map_append]
            rfl
          rw [htexts, List.append_right_inj, ih hcontents]
          exact (and_iff_right rfl).symm
      | false =>
          refine ⟨fun h => absurd h (groupTexts_append_comma_ne content _ _ hsep), ?_⟩
          exact fun h => absurd h.1 Bool.false_ne_true

/-- Groups whose patterns leave the scanner where it started can be joined. -/
theorem joinable_of_patterns (hne : contents ≠ [])
    (hcontents : ∀ content ∈ contents, QuotedContent content)
    (htexts : ∀ p ∈ contents.flatMap groupTexts, Scan.start.after p = .start) :
    joinable contents = true := by
  induction contents, hne using List.recNeNil with
  | singleton content =>
      rw [joinable, not_escaped_of_quotedContent (List.forall_mem_singleton.mp hcontents)]
      rfl
  | cons content contents hne ih =>
      obtain ⟨-, hcontents⟩ := List.forall_mem_cons.mp hcontents
      rw [List.flatMap_cons, List.forall_mem_append] at htexts
      obtain ⟨front, last, hsplit, hafter, -⟩ := exists_last_pattern content
      have hlast : trimBlanks last ∈ groupTexts content := by
        rw [groupTexts, hsplit, List.map_append]
        exact List.mem_append_right _ (List.mem_singleton_self _)
      obtain ⟨u, v, hu, hv, heq⟩ := exists_eq_trimBlanks last
      have hstart : Scan.start.after content = .start := by
        rw [hafter, heq, Scan.after_append, Scan.after_append, Scan.after_of_allBlank hu,
          htexts.1 _ hlast, Scan.after_of_allBlank hv]
      rw [joinable_cons hne, Bool.and_eq_true]
      exact ⟨Scan.after_eq_start_iff.mp hstart, ih hcontents htexts.2⟩

end

/-! ## Reading a row of groups -/

section

variable {owner : String} {allowBare first : Bool} {contents : List (List Char)}
  {rest rest' : List Char} {texts : List (List Char)}

theorem readArgument_quoted {content : List Char} (hcontent : QuotedContent content) :
    readArgument owner allowBare first (inQuotes content ++ rest) =
      if [] ∈ groupTexts content then
        .error ⟨inQuotes content ++ rest, .nonEmptyPatterns owner, .emptyPattern⟩
      else .ok (groupTexts content, rest) := by
  rw [inQuotes_append, readArgument, dropBlanks_cons_of_not_blank (by decide)]
  simp only [if_pos]
  rw [readGroup, readQuoted?_eq_some_iff.mpr ⟨hcontent, rfl⟩]
  rfl

/-- A row of groups is read as the texts of its groups, none of which may be
empty. -/
theorem readArguments_quoted_iff {bound : Nat} (hne : contents ≠ [])
    (hcontents : ∀ content ∈ contents, QuotedContent content)
    (hbound : (joinWithCommas (contents.map inQuotes)).length < bound) :
    readArguments owner allowBare bound first
        (joinWithCommas (contents.map inQuotes) ++ ')' :: rest) = .ok (texts, rest') ↔
      [] ∉ contents.flatMap groupTexts ∧ texts = contents.flatMap groupTexts ∧ rest' = rest := by
  induction contents, hne using List.recNeNil generalizing bound first texts with
  | singleton content =>
      obtain ⟨bound, rfl⟩ : ∃ n, bound = n + 1 := ⟨bound - 1, by omega⟩
      rw [List.flatMap_singleton, readArguments,
        show joinWithCommas ([content].map inQuotes) = inQuotes content from rfl,
        readArgument_quoted (List.forall_mem_singleton.mp hcontents)]
      by_cases hempty : [] ∈ groupTexts content
      · rw [if_pos hempty]
        refine ⟨fun h => ?_, fun h => absurd hempty h.1⟩
        cases h
      · rw [if_neg hempty]
        simp only [dropBlanks_cons_of_not_blank (show isBlank ')' = false by decide)]
        constructor
        · intro h
          obtain ⟨rfl, rfl⟩ := Prod.mk.inj (Except.ok.inj h)
          exact ⟨hempty, rfl, rfl⟩
        · intro h
          obtain ⟨-, rfl, rfl⟩ := h
          rfl
  | cons content contents hne ih =>
      obtain ⟨hcontent, hcontents⟩ := List.forall_mem_cons.mp hcontents
      obtain ⟨bound, rfl⟩ : ∃ n, bound = n + 1 := ⟨bound - 1, by omega⟩
      have hmap : contents.map inQuotes ≠ [] := fun h => hne (List.map_eq_nil_iff.mp h)
      rw [List.map_cons, joinWithCommas_cons hmap, List.length_append, List.length_cons] at hbound
      rw [List.map_cons, joinWithCommas_cons hmap, List.append_assoc, List.cons_append,
        List.flatMap_cons, List.mem_append, not_or, readArguments, readArgument_quoted hcontent]
      by_cases hempty : [] ∈ groupTexts content
      · rw [if_pos hempty]
        refine ⟨fun h => ?_, fun h => absurd hempty h.1.1⟩
        cases h
      · rw [if_neg hempty]
        simp only [dropBlanks_cons_of_not_blank (show isBlank ',' = false by decide)]
        rw [map_eq_ok_iff]
        constructor
        · intro h
          obtain ⟨⟨more, tail⟩, hmore, heq⟩ := h
          obtain ⟨rfl, rfl⟩ := Prod.mk.inj heq
          obtain ⟨hrest, rfl, rfl⟩ := (ih hcontents (by omega)).mp hmore
          exact ⟨⟨hempty, hrest⟩, rfl, rfl⟩
        · intro h
          obtain ⟨⟨-, hmore⟩, rfl, rfl⟩ := h
          exact ⟨_, (ih hcontents (by omega)).mpr ⟨hmore, rfl, rfl⟩, rfl⟩

end

end Definition

/-! ## The test as it is written -/

namespace Filter

open Definition

/-- A test with the groups that are given. The sign may be left out. -/
def renderGroups (label : String) (sign? : Option Sign) (contents : List (List Char)) :
    List Char :=
  label.toList ++
    '(' :: ((sign?.map Sign.symbol).toList ++ joinWithCommas (contents.map inQuotes) ++ [')'])

section

variable {options : ParseOptions} {f : Field} {sign? : Option Sign}
  {contents : List (List Char)}

theorem exists_joined_eq_cons (hne : contents ≠ []) :
    ∃ cs, joinWithCommas (contents.map inQuotes) = '\'' :: cs := by
  obtain ⟨content, contents, rfl⟩ := List.exists_cons_of_ne_nil hne
  cases contents with
  | nil => exact ⟨_, rfl⟩
  | cons => exact ⟨_, rfl⟩

theorem readSign_symbol? (sign? : Option Sign) (cs : List Char) :
    readSign ((sign?.map Sign.symbol).toList ++ '\'' :: cs) =
      (sign?.getD .include, '\'' :: cs) := by
  cases sign? with
  | none => rfl
  | some sign => exact readSign_written sign AllBlank.nil

theorem readTest_groups_iff {owner : String} {allowBare : Bool} {rest rest' : List Char}
    {test : Sign × List (List Char)} (hne : contents ≠ [])
    (hcontents : ∀ content ∈ contents, QuotedContent content) :
    readTest owner allowBare ('(' :: ((sign?.map Sign.symbol).toList ++
        joinWithCommas (contents.map inQuotes) ++ ')' :: rest)) = .ok (test, rest') ↔
      [] ∉ contents.flatMap groupTexts ∧
        test = (sign?.getD .include, contents.flatMap groupTexts) ∧ rest' = rest := by
  have hopen : ∀ cs, expectSymbol '(' ('(' :: cs) = .ok cs := fun cs =>
    (expectSymbol_eq_ok_iff (by decide)).mpr ⟨[], AllBlank.nil, rfl⟩
  obtain ⟨cs, hcs⟩ := exists_joined_eq_cons hne
  have hsign : readSign ((sign?.map Sign.symbol).toList ++
      joinWithCommas (contents.map inQuotes) ++ ')' :: rest) =
      (sign?.getD .include, joinWithCommas (contents.map inQuotes) ++ ')' :: rest) := by
    rw [hcs, List.append_assoc, List.cons_append]
    exact readSign_symbol? sign? _
  rw [readTest, hopen]
  simp only [hsign]
  rw [map_eq_ok_iff]
  have hbound : (joinWithCommas (contents.map inQuotes)).length <
      (joinWithCommas (contents.map inQuotes) ++ ')' :: rest).length := by
    rw [List.length_append, List.length_cons]
    omega
  constructor
  · intro h
    obtain ⟨⟨texts, tail⟩, hargs, heq⟩ := h
    obtain ⟨rfl, rfl⟩ := Prod.mk.inj heq
    obtain ⟨hnonempty, rfl, rfl⟩ := (readArguments_quoted_iff hne hcontents hbound).mp hargs
    exact ⟨hnonempty, rfl, rfl⟩
  · intro h
    obtain ⟨hnonempty, rfl, rfl⟩ := h
    exact ⟨_, (readArguments_quoted_iff hne hcontents hbound).mpr ⟨hnonempty, rfl, rfl⟩, rfl⟩

/-- A test with some groups spells the test for their texts, and nothing if one
of these is empty. -/
theorem read_groups_iff {limit : Nat} {d : Definition} (hne : contents ≠ [])
    (hcontents : ∀ content ∈ contents, QuotedContent content) :
    read limit (renderGroups f.label sign? contents) = .ok (some d) ↔
      [] ∉ contents.flatMap groupTexts ∧
        d = .field f (sign?.getD .include) (contents.flatMap groupTexts) := by
  have hlabel : f.label.toList ≠ [] := by cases f <;> decide
  have hread : ∀ rest, readFilter limit limit (renderGroups f.label sign? contents) =
      .ok (d, rest) ↔ [] ∉ contents.flatMap groupTexts ∧
        d = .field f (sign?.getD .include) (contents.flatMap groupTexts) ∧ rest = [] := by
    intro rest
    rw [renderGroups, readFilter_field (readName_of_word hlabel (label_all_isNameChar f) rfl),
      map_eq_ok_iff]
    constructor
    · intro h
      obtain ⟨⟨test, tail⟩, htest, heq⟩ := h
      obtain ⟨rfl, rfl⟩ := Prod.mk.inj heq
      obtain ⟨hnonempty, rfl, rfl⟩ := (readTest_groups_iff hne hcontents).mp htest
      exact ⟨hnonempty, rfl, rfl⟩
    · intro h
      obtain ⟨hnonempty, rfl, rfl⟩ := h
      exact ⟨_, (readTest_groups_iff hne hcontents).mpr ⟨hnonempty, rfl, rfl⟩, rfl⟩
  constructor
  · intro h
    obtain ⟨rest, hfilter⟩ := readFilter_of_read h
    obtain ⟨hnonempty, rfl, -⟩ := (hread rest).mp hfilter
    exact ⟨hnonempty, rfl⟩
  · intro h
    obtain ⟨hnonempty, rfl⟩ := h
    exact read_of_readFilter ((hread []).mpr ⟨hnonempty, rfl, rfl⟩) AllBlank.nil

/-- A test with some groups is the test for their texts. -/
theorem ofChars_groups_iff {t : Filter} (hne : contents ≠ [])
    (hcontents : ∀ content ∈ contents, QuotedContent content) :
    ofChars options (renderGroups f.label sign? contents) = .ok t ↔
      [] ∉ contents.flatMap groupTexts ∧
        (Definition.field f (sign?.getD .include) (contents.flatMap groupTexts)).lower options =
          .ok t := by
  have hread : ∀ d, read options.maxDepth.toNat (renderGroups f.label sign? contents) =
      .ok (some d) ↔ [] ∉ contents.flatMap groupTexts ∧
        d = .field f (sign?.getD .include) (contents.flatMap groupTexts) := fun d =>
    read_groups_iff hne hcontents
  constructor
  · intro h
    rw [ofChars] at h
    split at h
    · cases h
    · next hnone =>
        have hblank := read_eq_none_iff.mp hnone
        have hopen : '(' ∈ renderGroups f.label sign? contents :=
          List.mem_append_right _ (List.mem_cons_self ..)
        exact absurd (hblank _ hopen) (by decide)
    · next d hd =>
        obtain ⟨hnonempty, rfl⟩ := (hread d).mp hd
        exact ⟨hnonempty, h⟩
  · intro h
    obtain ⟨hnonempty, hlower⟩ := h
    rw [ofChars, (hread _).mpr ⟨hnonempty, rfl⟩]
    exact hlower

/-- Joining the groups of a test that compiles gives the same test exactly if
they are joinable. -/
theorem ofChars_joined_iff {t : Filter} (hne : contents ≠ [])
    (hcontents : ∀ content ∈ contents, QuotedContent content)
    (h : ofChars options (renderGroups f.label sign? contents) = .ok t) :
    (∃ t', ofChars options (renderGroups f.label sign? [joinWithCommas contents]) = .ok t' ∧
      t'.same t = true) ↔ joinable contents = true := by
  have hone : ∀ t', ofChars options (renderGroups f.label sign? [joinWithCommas contents]) =
      .ok t' ↔ [] ∉ groupTexts (joinWithCommas contents) ∧
        (Definition.field f (sign?.getD .include) (groupTexts (joinWithCommas contents))).lower
          options = .ok t' := by
    intro t'
    have hquoted := List.forall_mem_singleton.mpr (quotedContent_joined hne hcontents)
    rw [ofChars_groups_iff (List.cons_ne_nil _ _) hquoted, List.flatMap_singleton]
  obtain ⟨hnonempty, hlower⟩ := (ofChars_groups_iff hne hcontents).mp h
  rw [← groupTexts_joined_iff hne hcontents]
  constructor
  · intro h
    obtain ⟨t', ht', hsame⟩ := h
    obtain ⟨-, hlower'⟩ := (hone t').mp ht'
    rw [lower] at hlower
    obtain ⟨ps, hps, rfl⟩ := map_eq_ok_iff.mp hlower
    rw [texts_of_lower_field hlower' hsame, sources_of_forall₂ (lowerPatterns_eq_ok_iff.mp hps)]
  · intro htexts
    rw [htexts] at hone
    exact ⟨t, (hone t).mpr ⟨hnonempty, hlower⟩, same_self t⟩

/-- Plain patterns come in groups that can be joined. -/
theorem joinable_of_plain {ps : List Pattern} (hne : contents ≠ [])
    (hcontents : ∀ content ∈ contents, QuotedContent content)
    (hps : List.Forall₂ (fun text p => Pattern.ofChars options.pattern text = .ok p)
      (contents.flatMap groupTexts) ps)
    (hplain : ∀ p ∈ ps, Regex.PlainFrom .start p.source.toList) : joinable contents = true := by
  refine joinable_of_patterns hne hcontents fun text htext => ?_
  obtain ⟨p, hp, hcompile⟩ := exists_mem_of_forall₂ hps htext
  have hsource := hplain p hp
  rw [source_of_ofChars hcompile] at hsource
  obtain ⟨content, -, htext⟩ := List.mem_flatMap.mp htext
  obtain ⟨q, hq, rfl⟩ := List.mem_map.mp htext
  rw [Pattern.ofChars] at hcompile
  obtain ⟨term, hterm, -⟩ := map_eq_ok_iff.mp hcompile
  have hunsplit : UnsplitFrom (Scan.steady 0 0) (trimBlanks q) :=
    (splitPatterns_unsplit hq).trimBlanks
  exact (Regex.moves_of_compile hterm hsource (.inr hunsplit)).after

end

end Filter

/-! ## The definition -/

namespace CompiledFilter

open Definition NodeSieve.Filter

/-- Patterns mean the same in groups of their own and in one group exactly if
each group leaves the scanner where it started. Groups of plain patterns do. -/
theorem compile_joined_groups {options : ParseOptions} {f : Field} {sign? : Option Sign}
    {contents : List (List Char)} {c : CompiledFilter} (hne : contents ≠ [])
    (hcontents : ∀ content ∈ contents, QuotedContent content)
    (h : compile options (String.ofList (renderGroups f.label sign? contents)) = .ok c) :
    ((∃ c', compile options
        (String.ofList (renderGroups f.label sign? [joinWithCommas contents])) = .ok c' ∧
          (c'.root == c.root) = true) ↔ joinable contents = true) ∧
      ∃ ps, c.root = .leaf (.field f) (sign?.getD .include) ps ∧
        ((∀ p ∈ ps, Regex.PlainFrom .start p.source.toList) → joinable contents = true) := by
  obtain ⟨hroot, -⟩ := compile_ofList_eq_ok_iff.mp h
  refine ⟨?_, ?_⟩
  · rw [← ofChars_joined_iff hne hcontents hroot]
    constructor
    · intro h
      obtain ⟨c', hc', hsame⟩ := h
      exact ⟨c'.root, (compile_ofList_eq_ok_iff.mp hc').1, hsame⟩
    · intro h
      obtain ⟨t', ht', hsame⟩ := h
      exact ⟨⟨_, t'⟩, compile_ofList_eq_ok_iff.mpr ⟨ht', rfl⟩, hsame⟩
  · obtain ⟨-, hlower⟩ := (ofChars_groups_iff hne hcontents).mp hroot
    rw [lower] at hlower
    obtain ⟨ps, hps, hleaf⟩ := map_eq_ok_iff.mp hlower
    exact ⟨ps, hleaf.symm, joinable_of_plain hne hcontents (lowerPatterns_eq_ok_iff.mp hps)⟩

/-- Counts, classes and escaped commas keep to themselves. -/
theorem compile_joined_groups_of_plain :
    ∃ c, compile .default "Name(-'^a\x7b1,3\x7d$, b','[],]\\,')" = .ok c ∧
      ∃ c', compile .default "Name(-'^a\x7b1,3\x7d$, b,[],]\\,')" = .ok c' ∧
        (c'.root == c.root) = true := by
  have hcompiles : (compile .default "Name(-'^a\x7b1,3\x7d$, b','[],]\\,')").map (fun _ => ()) =
      .ok () := by decide +kernel
  obtain ⟨c, hc, -⟩ := map_eq_ok_iff.mp hcompiles
  have hwritten : compile .default (String.ofList (renderGroups Field.name.label (some .exclude)
      ["^a\x7b1,3\x7d$, b".toList, "[],]\\,".toList])) = .ok c := hc
  have hquoted : ∀ content ∈ ["^a\x7b1,3\x7d$, b".toList, "[],]\\,".toList],
      QuotedContent content := by
    simp only [quotedContent_iff]
    decide
  have hjoin : joinable ["^a\x7b1,3\x7d$, b".toList, "[],]\\,".toList] = true := by decide
  have hsame := (compile_joined_groups (List.cons_ne_nil _ _) hquoted hwritten).1.mpr hjoin
  exact ⟨c, hc, hsame⟩

/-- A class range that ends in a bracket leaves the scanner in the class. -/
theorem compile_joined_groups_of_bracket_range :
    ¬ ∀ c, compile .default "Name(+'[!-[]','b')" = .ok c →
      ∃ c', compile .default "Name(+'[!-[],b')" = .ok c' ∧ (c'.root == c.root) = true := by
  have hdiffers : ((compile .default "Name(+'[!-[]','b')").bind fun c =>
      (compile .default "Name(+'[!-[],b')").map fun c' => c'.root == c.root) =
      .ok false := by
    decide +kernel
  exact not_same_of_bind hdiffers

end CompiledFilter

end NodeSieve
