import NodeSieve.Proofs.Lowering

/-!
# Errors stand where the text could still have gone on

A badly written text is refused at one place. Up to that place nothing is
wrong yet: what stands in front of it can be continued to a text that is
read. This is proved reader by reader. Each reader has a language, the texts
that it takes off the front, and an error of the reader splits its text into
a part that is the beginning of a member of the language and a part where the
error stands (`Stuck`). A reader that calls another one adds what it has read
itself in front, and what it would still have to read behind: the closing
parenthesis, the closing braces of all open combinators.

The combinators that are open do not count against the continuation.
`Folder()` is a filter at every level, also where no level is left.

The other half is what the error says it found there. That only depends on
the error and on the text that is left, so it is one relation (`Shown`), which
travels along unchanged.
-/

namespace NodeSieve

namespace Definition

open NodeSieve.Unicode

/-! ## Places that can be reached -/

/-- A mismatch and the text at its place: what it found stands there. -/
inductive Shown : Mismatch → Prop
  | next {rest : List Char} {expected : Expected} (h : expected ≠ .closingQuote) :
      Shown ⟨rest, expected, .next⟩
  | name {name rest : List Char} {expected : Expected} :
      Shown ⟨name ++ rest, expected, .name name⟩
  | deeper {start keyword rest : List Char} {expected : Expected}
      (hname : readName start = (keyword, rest))
      (hword : keyword = ['a', 'n', 'd'] ∨ keyword = ['o', 'r']) :
      Shown ⟨start, expected, .deeperNesting⟩
  | emptyPattern {rest : List Char} {expected : Expected} :
      Shown ⟨'\'' :: rest, expected, .emptyPattern⟩
  | unclosed {rest : List Char} : Shown ⟨'\'' :: rest, .closingQuote, .endOfInput⟩

/-- Reading a text of a language stops at a mismatch, and what stands in front
of it can be continued to a text of the language. -/
structure Stuck (language : List Char → Prop) (cs : List Char) (m : Mismatch) : Prop where
  completable : ∃ u v, cs = u ++ m.rest ∧ language (u ++ v)
  shown : Shown m

section

variable {language outer : List Char → Prop} {u v w cs : List Char} {m : Mismatch}

theorem Stuck.here (hcs : cs = u ++ m.rest) (h : language (u ++ v)) (hm : Shown m) :
    Stuck language cs m :=
  ⟨⟨u, v, hcs, h⟩, hm⟩

/-- What a reader has read before it calls another one stands in front of
every continuation of the other one. -/
theorem Stuck.behind (h : Stuck language cs m)
    (houter : ∀ text, language text → ∃ v, outer (w ++ text ++ v)) :
    Stuck outer (w ++ cs) m := by
  obtain ⟨⟨u, v, rfl, htext⟩, hm⟩ := h
  obtain ⟨v', houter⟩ := houter (u ++ v) htext
  have heq : w ++ u ++ (v ++ v') = w ++ (u ++ v) ++ v' := by
    simp only [List.append_assoc]
  exact .here (List.append_assoc w u m.rest).symm (heq ▸ houter) hm

theorem Stuck.mono (h : Stuck language cs m) (houter : ∀ text, language text → outer text) :
    Stuck outer cs m :=
  h.behind (w := []) fun text htext => ⟨[], by rw [List.append_nil]; exact houter text htext⟩

end

/-! ## Symbols and lists -/

theorem stuck_expectSymbol {symbol : Char} {cs : List Char} {m : Mismatch}
    (h : expectSymbol symbol cs = .error m) :
    Stuck (fun text => ∃ w, AllBlank w ∧ text = w ++ [symbol]) cs m := by
  obtain ⟨w, hw, hcs⟩ := exists_eq_append_dropBlanks cs
  rw [expectSymbol] at h
  split at h
  · next hdrop =>
      cases h
      exact .here (hdrop ▸ hcs) ⟨w, hw, rfl⟩ (.next (by simp))
  · next c tail hdrop =>
      split at h
      · cases h
      · cases h
        exact .here (hdrop ▸ hcs) ⟨w, hw, rfl⟩ (.next (by simp))

section

variable {α : Type} {item : List Char → α → Prop} {m : Mismatch}

/-- One item with blanks in front of it. -/
def Led (item : List Char → α → Prop) (text : List Char) : Prop :=
  ∃ w body a, AllBlank w ∧ text = w ++ body ∧ item body a

/-- A list of items. -/
def Listed (item : List Char → α → Prop) (text : List Char) : Prop :=
  ∃ as, Separated item text as

theorem Led.listed {text : List Char} (h : Led item text) : Listed item text := by
  obtain ⟨w, body, a, hw, rfl, ha⟩ := h
  have hone := Separated.one hw ha AllBlank.nil
  rw [List.append_nil] at hone
  exact ⟨[a], hone⟩

/-- Behind an item the list can always be ended. -/
theorem stuck_behind_item {u text rest rest' : List Char} {a : α} {expected : Expected}
    (hu : AllBlank u) (ha : item text a) (hrest : dropBlanks rest = rest')
    (hexpected : expected ≠ .closingQuote) :
    Stuck (Listed item) (u ++ text ++ rest) ⟨rest', expected, .next⟩ := by
  obtain ⟨v, hv, hcs⟩ := exists_eq_append_dropBlanks rest
  refine .here (u := u ++ text ++ v) (v := []) ?_ ?_ (.next hexpected)
  · rw [hcs, hrest, List.append_assoc (u ++ text)]
  · rw [List.append_nil]
    exact ⟨[a], .one hu ha hv⟩

theorem Stuck.behind_comma {u text rest behind : List Char} {a : α} (hu : AllBlank u)
    (ha : item text a) (hrest : dropBlanks rest = ',' :: behind)
    (h : Stuck (Listed item) behind m) : Stuck (Listed item) (u ++ text ++ rest) m := by
  obtain ⟨v, hv, rfl⟩ := exists_of_dropBlanks_eq_cons hrest
  have hsplit : u ++ text ++ (v ++ ',' :: behind) = u ++ text ++ v ++ [','] ++ behind := by
    simp only [List.append_assoc, List.cons_append, List.nil_append]
  rw [hsplit]
  refine h.behind fun more hmore => ⟨[], ?_⟩
  obtain ⟨as, has⟩ := hmore
  refine ⟨a :: as, ?_⟩
  have hlist := Separated.more hu ha hv has
  simpa only [List.append_assoc, List.cons_append, List.nil_append, List.append_nil] using hlist

end

/-! ## Arguments -/

/-- The shortest group, which continues every text in which an argument is
missing. -/
theorem argument_shortest (allowBare : Bool) : Argument allowBare ['\'', 'a', '\''] [['a']] :=
  @Argument.quoted allowBare ['a'] (.plain (by decide) (by decide) .nil) (by decide)

section

variable {owner : String} {allowBare first : Bool} {cs : List Char} {m : Mismatch}

theorem shown_missingArgument : Shown (missingArgument owner first cs) := by
  rw [missingArgument]
  cases first with
  | false => exact .next (by simp)
  | true => exact .next (by simp)

theorem shown_readGroup (h : readGroup owner ('\'' :: cs) cs = .error m) :
    m.rest = '\'' :: cs ∧ Shown m := by
  rw [readGroup] at h
  split at h
  · cases h
    exact ⟨rfl, .unclosed⟩
  · simp only [] at h
    split at h
    · cases h
      exact ⟨rfl, .emptyPattern⟩
    · cases h

/-- An argument goes wrong as a whole: its error stands where it starts. -/
theorem stuck_readArgument (h : readArgument owner allowBare first cs = .error m) :
    Stuck (Led (Argument allowBare)) cs m := by
  obtain ⟨w, hw, hcs⟩ := exists_eq_append_dropBlanks cs
  have hcompletion : Led (Argument allowBare) (w ++ ['\'', 'a', '\'']) :=
    ⟨w, _, _, hw, rfl, argument_shortest allowBare⟩
  rw [readArgument] at h
  split at h
  · next hdrop =>
      cases h
      exact .here (hdrop ▸ hcs) hcompletion shown_missingArgument
  · next c tail hdrop =>
      rw [hdrop] at hcs
      split at h
      · next hc =>
          subst hc
          obtain ⟨hrest, hm⟩ := shown_readGroup h
          exact .here (hrest ▸ hcs) hcompletion hm
      · split at h
        · cases h
        · cases h
          exact .here hcs hcompletion shown_missingArgument

theorem stuck_readArguments {bound : Nat}
    (h : readArguments owner allowBare bound first cs = .error m) :
    Stuck (Listed (Argument allowBare)) cs m := by
  induction bound generalizing first cs with
  | zero =>
      cases h
      exact .here (u := []) rfl (Led.listed ⟨[], _, _, .nil, rfl, argument_shortest allowBare⟩)
        shown_missingArgument
  | succ bound ih =>
      rw [readArguments] at h
      split at h
      · next e hread =>
          cases h
          exact (stuck_readArgument hread).mono fun _ => Led.listed
      · next texts rest hread =>
          obtain ⟨u, text, hu, rfl, harg⟩ := readArgument_sound hread
          split at h
          · next behind hdrop =>
              exact .behind_comma hu harg hdrop (ih (map_eq_error_iff.mp h))
          · cases h
          · next rest' _ _ =>
              cases h
              exact stuck_behind_item hu harg rfl (by simp)

end

/-! ## Tests -/

/-- A sign and arguments between parentheses, with blanks in front. -/
def Tested (allowBare : Bool) (text : List Char) : Prop :=
  ∃ w body sign texts, AllBlank w ∧ text = w ++ '(' :: body ++ [')'] ∧
    Signed allowBare body sign texts

theorem signed_shortest (allowBare : Bool) :
    Signed allowBare ['\'', 'a', '\''] .include [['a']] := by
  have hlist := Separated.one AllBlank.nil (argument_shortest allowBare) AllBlank.nil
  exact .omitted (by rintro c ⟨⟩; rfl) hlist

theorem Signed.blanks_append {allowBare : Bool} {w body : List Char} {sign : Sign}
    {texts : List (List Char)} (hw : AllBlank w) (h : Signed allowBare body sign texts) :
    Signed allowBare (w ++ body) sign texts := by
  cases h with
  | @written u body args sign hu hbody =>
      rw [← List.append_assoc]
      exact .written sign (hw.append hu) hbody
  | omitted hfirst hbody =>
      refine .omitted ?_ (hbody.blanks_append hw)
      rw [dropBlanks_append hw]
      exact hfirst

/-- The arguments behind a sign that is not written. What continues them must
not be read as a sign: with nothing in front of the mismatch that is up to
the continuation, and otherwise the first character is already there. -/
theorem stuck_unsigned {allowBare : Bool} {cs : List Char} {m : Mismatch}
    (h : Stuck (Listed (Argument allowBare)) cs m)
    (hfirst : ∀ c ∈ cs.head?, isBlank c = false ∧ Sign.ofSymbol? c = none) :
    Stuck (fun text => ∃ sign texts, Signed allowBare text sign texts) cs m := by
  obtain ⟨⟨u, v, hcs, args, hargs⟩, hm⟩ := h
  cases u with
  | nil => exact .here (u := []) hcs ⟨_, _, signed_shortest allowBare⟩ hm
  | cons c u =>
      obtain ⟨hblank, hsign⟩ := hfirst c (by rw [hcs]; rfl)
      refine .here hcs ⟨_, _, .omitted ?_ hargs⟩ hm
      rw [List.cons_append, dropBlanks_cons_of_not_blank hblank]
      rintro d ⟨⟩
      exact hsign

theorem stuck_signed {owner : String} {allowBare : Bool} {bound : Nat} {cs rest : List Char}
    {sign : Sign} {m : Mismatch} (hsign : readSign cs = (sign, rest))
    (h : readArguments owner allowBare bound true rest = .error m) :
    Stuck (fun text => ∃ sign texts, Signed allowBare text sign texts) cs m := by
  have hstuck := stuck_readArguments h
  rcases readSign_sound hsign with ⟨u, hu, rfl⟩ | ⟨rfl, hdrop, hfirst⟩
  · have hsplit : u ++ sign.symbol :: rest = u ++ [sign.symbol] ++ rest := by
      rw [List.append_assoc, List.singleton_append]
    rw [hsplit]
    refine hstuck.behind fun text htext => ⟨[], sign, ?_⟩
    obtain ⟨args, hargs⟩ := htext
    rw [List.append_nil, List.append_assoc, List.singleton_append]
    exact ⟨_, .written sign hu hargs⟩
  · obtain ⟨v, hv, hcs⟩ := exists_eq_append_dropBlanks cs
    rw [← hdrop] at hcs
    have hhead : ∀ c ∈ rest.head?, isBlank c = false ∧ Sign.ofSymbol? c = none := by
      intro c hc
      refine ⟨?_, hfirst c hc⟩
      cases rest with
      | nil => cases hc
      | cons d ds =>
          rw [← Option.some.inj hc]
          exact not_blank_of_dropBlanks_eq_cons hdrop.symm
    rw [hcs]
    refine (stuck_unsigned hstuck hhead).behind fun text htext => ⟨[], ?_⟩
    obtain ⟨sign, texts, htext⟩ := htext
    rw [List.append_nil]
    exact ⟨sign, texts, htext.blanks_append hv⟩

theorem stuck_readTest {owner : String} {allowBare : Bool} {cs : List Char} {m : Mismatch}
    (h : readTest owner allowBare cs = .error m) : Stuck (Tested allowBare) cs m := by
  rw [readTest] at h
  split at h
  · next e hopen =>
      cases h
      refine (stuck_expectSymbol hopen).behind (w := []) fun text htext => ?_
      obtain ⟨w, hw, rfl⟩ := htext
      refine ⟨['\'', 'a', '\''] ++ [')'], w, _, _, _, hw, ?_, signed_shortest allowBare⟩
      simp only [List.append_assoc, List.cons_append, List.nil_append]
  · next behind hopen =>
      obtain ⟨w, hw, rfl⟩ := (expectSymbol_eq_ok_iff (by decide)).mp hopen
      split at h
      next sign rest hsign =>
        have hsplit : w ++ '(' :: behind = w ++ ['('] ++ behind := by
          rw [List.append_assoc, List.singleton_append]
        rw [hsplit]
        refine (stuck_signed hsign (map_eq_error_iff.mp h)).behind fun text htext => ⟨[')'], ?_⟩
        obtain ⟨sign, texts, htext⟩ := htext
        refine ⟨w, text, sign, texts, hw, ?_, htext⟩
        simp only [List.append_assoc, List.cons_append, List.nil_append]

theorem stuck_readNoArguments {cs : List Char} {m : Mismatch}
    (h : readNoArguments cs = .error m) :
    Stuck (fun text => ∃ w v, AllBlank w ∧ AllBlank v ∧ text = w ++ '(' :: v ++ [')']) cs m := by
  rw [readNoArguments] at h
  split at h
  · next e hopen =>
      cases h
      refine (stuck_expectSymbol hopen).behind (w := []) fun text htext => ?_
      obtain ⟨w, hw, rfl⟩ := htext
      refine ⟨[')'], w, [], hw, .nil, ?_⟩
      simp only [List.append_assoc, List.cons_append, List.nil_append]
  · next behind hopen =>
      obtain ⟨w, hw, rfl⟩ := (expectSymbol_eq_ok_iff (by decide)).mp hopen
      obtain ⟨v, hv, hbehind⟩ := exists_eq_append_dropBlanks behind
      split at h
      · cases h
      · cases h
        refine .here (u := w ++ '(' :: v) (v := [')']) ?_ ⟨w, v, hw, hv, rfl⟩ (.next (by simp))
        rw [hbehind, dropBlanks_append hv, dropBlanks_dropBlanks, List.append_assoc,
          List.cons_append]

/-! ## Filters -/

theorem spells_shortest : Spells "Folder()".toList .folder :=
  .folder .nil .nil

theorem spellsWithin_shortest (levels : Nat) :
    SpellsWithin levels "Folder()".toList .folder :=
  ⟨spells_shortest, Nat.zero_le levels⟩

theorem stuck_readTestNamed {levels : Nat} {name cs : List Char} {m : Mismatch}
    (h : readTestNamed name (name ++ cs) cs = .error m) :
    Stuck (fun text => ∃ d, SpellsWithin levels text d) (name ++ cs) m := by
  rw [readTestNamed] at h
  split at h
  · cases h
    exact .here (u := []) rfl ⟨_, spellsWithin_shortest levels⟩ (.next (by simp))
  · next hname =>
      refine (stuck_readTest (map_eq_error_iff.mp h)).behind fun text htext => ⟨[], ?_⟩
      obtain ⟨w, body, sign, texts, hw, rfl, hbody⟩ := htext
      have hspells := Spells.type hw hbody
      rw [eq_toList_of_ofList hname]
      refine ⟨.type sign texts, ?_, Nat.zero_le levels⟩
      rw [List.append_nil]
      rwa [List.append_assoc, List.append_assoc, ← List.append_assoc w] at hspells
  · next hname =>
      refine (stuck_readNoArguments (map_eq_error_iff.mp h)).behind fun text htext => ⟨[], ?_⟩
      obtain ⟨w, v, hw, hv, rfl⟩ := htext
      have hspells := Spells.folder hw hv
      rw [eq_toList_of_ofList hname]
      refine ⟨.folder, ?_, Nat.zero_le levels⟩
      rw [List.append_nil]
      rwa [List.append_assoc, List.append_assoc, ← List.append_assoc w] at hspells
  · next label hempty htype hfolder =>
      split at h
      · next f hf =>
          refine (stuck_readTest (map_eq_error_iff.mp h)).behind fun text htext => ⟨[], ?_⟩
          obtain ⟨w, body, sign, texts, hw, rfl, hbody⟩ := htext
          have hspells := Spells.field f hw hbody
          rw [eq_toList_of_ofList (Field.label_of_ofLabel? hf).symm]
          refine ⟨.field f sign texts, ?_, Nat.zero_le levels⟩
          rw [List.append_nil]
          rwa [List.append_assoc, List.append_assoc, ← List.append_assoc w] at hspells
      · cases h
        exact .here (u := []) rfl ⟨_, spellsWithin_shortest levels⟩ .name

section

variable {child : List Char → Read Definition} {item : List Char → Definition → Prop}

theorem stuck_readSiblings
    (hchild : ∀ {cs rest : List Char} {d : Definition}, child cs = .ok (d, rest) →
      ∃ w text, AllBlank w ∧ cs = w ++ text ++ rest ∧ item text d)
    (hstuck : ∀ {cs : List Char} {m : Mismatch}, child cs = .error m → Stuck (Led item) cs m)
    {text : List Char} {d : Definition} (hitem : item text d) {bound : Nat} {cs : List Char}
    {m : Mismatch} (h : readSiblings child bound cs = .error m) :
    Stuck (Listed item) cs m := by
  induction bound generalizing cs with
  | zero =>
      cases h
      exact .here (u := []) rfl (Led.listed ⟨[], text, d, .nil, rfl, hitem⟩) (.next (by simp))
  | succ bound ih =>
      rw [readSiblings] at h
      split at h
      · next e hread =>
          cases h
          exact (hstuck hread).mono fun _ => Led.listed
      · next d rest hread =>
          obtain ⟨u, text, hu, rfl, hd⟩ := hchild hread
          split at h
          · next behind hdrop => exact .behind_comma hu hd hdrop (ih (map_eq_error_iff.mp h))
          · cases h
          · cases h
            exact stuck_behind_item hu hd rfl (by simp)

theorem stuck_readChildren
    (hchild : ∀ {cs rest : List Char} {d : Definition}, child cs = .ok (d, rest) →
      ∃ w text, AllBlank w ∧ cs = w ++ text ++ rest ∧ item text d)
    (hstuck : ∀ {cs : List Char} {m : Mismatch}, child cs = .error m → Stuck (Led item) cs m)
    {text : List Char} {d : Definition} (hitem : item text d) {cs : List Char} {m : Mismatch}
    (h : readChildren child cs = .error m) :
    Stuck (fun text => ∃ w body ds, AllBlank w ∧ text = w ++ '\x7b' :: body ++ ['\x7d'] ∧
      Separated item body ds) cs m := by
  have hone : Separated item ([] ++ text ++ []) [d] := .one .nil hitem .nil
  rw [List.nil_append, List.append_nil] at hone
  rw [readChildren] at h
  split at h
  · next e hopen =>
      cases h
      refine (stuck_expectSymbol hopen).behind (w := []) fun opened hopened => ?_
      obtain ⟨w, hw, rfl⟩ := hopened
      refine ⟨text ++ ['\x7d'], w, text, [d], hw, ?_, hone⟩
      simp only [List.append_assoc, List.cons_append, List.nil_append]
  · next behind hopen =>
      obtain ⟨w, hw, rfl⟩ := (expectSymbol_eq_ok_iff (by decide)).mp hopen
      obtain ⟨v, hv, hbehind⟩ := exists_eq_append_dropBlanks behind
      have hsplit : w ++ '\x7b' :: behind = w ++ '\x7b' :: v ++ dropBlanks behind := by
        rw [List.append_assoc, List.cons_append, ← hbehind]
      rw [hsplit]
      split at h
      · next rest hdrop =>
          cases h
          rw [hdrop]
          refine .here (v := text ++ ['\x7d']) rfl
            ⟨w, v ++ text, [d], hw, ?_, hone.blanks_append hv⟩ (.next (by simp))
          simp only [List.append_assoc, List.cons_append]
      · refine (stuck_readSiblings hchild hstuck hitem h).behind fun body hbody => ⟨['\x7d'], ?_⟩
        obtain ⟨ds, hds⟩ := hbody
        refine ⟨w, v ++ body, ds, hw, ?_, hds.blanks_append hv⟩
        simp only [List.append_assoc, List.cons_append]

end

/-- A combinator's word in front of children that can be continued. -/
theorem stuck_combined {inner : Nat} {word cs : List Char} {m : Mismatch}
    {combine : List Definition → Definition} (hword : Combines word combine)
    (h : Stuck (fun text => ∃ w body ds, AllBlank w ∧ text = w ++ '\x7b' :: body ++ ['\x7d'] ∧
      Separated (SpellsWithin inner) body ds) cs m) :
    Stuck (fun text => ∃ d, SpellsWithin (inner + 1) text d) (word ++ cs) m := by
  refine h.behind fun text htext => ⟨[], ?_⟩
  obtain ⟨w, body, ds, hw, rfl, hds⟩ := htext
  obtain ⟨hbody, hdeep⟩ := separated_spellsWithin_iff.mp hds
  refine ⟨combine ds, ?_, ?_⟩
  · simpa only [List.append_assoc, List.append_nil] using hword.spells hw hbody
  · rw [hword.nesting_eq]
    exact Nat.succ_le_succ hdeep

/-- With no level left a combinator is refused where its word starts, and a
filter without one can stand there. -/
theorem stuck_tooDeep {limit : Nat} {start word rest : List Char}
    {combine : List Definition → Definition} (hword : Combines word combine)
    (hname : readName start = (word, rest)) :
    Stuck (fun text => ∃ d, SpellsWithin 0 text d) start (tooDeep limit start) := by
  refine .here (u := []) rfl ⟨_, spellsWithin_shortest 0⟩ (.deeper hname ?_)
  cases hword with
  | all => exact .inl rfl
  | any => exact .inr rfl

theorem stuck_readFilter {limit levels : Nat} {cs : List Char} {m : Mismatch}
    (h : readFilter limit levels cs = .error m) : Stuck (Led (SpellsWithin levels)) cs m := by
  induction levels using Nat.strongRecOn generalizing cs m with
  | ind levels ih =>
      obtain ⟨w, hw, hcs⟩ := exists_eq_append_dropBlanks cs
      -- The blanks in front belong to no filter, so only the rest is looked at.
      suffices hstart : Stuck (fun text => ∃ d, SpellsWithin levels text d) (dropBlanks cs) m by
        rw [hcs]
        refine hstart.behind fun text htext => ⟨[], ?_⟩
        obtain ⟨d, hd⟩ := htext
        exact ⟨w, text, d, hw, List.append_nil _, hd⟩
      rcases readFilter_combinator_or_test cs with
        ⟨word, combine, tail, hword, hname⟩ | ⟨name, tail, hstart, htest⟩
      · cases levels with
        | zero =>
            rw [readFilter_combinator_zero hword hname] at h
            cases h
            exact stuck_tooDeep hword hname
        | succ inner =>
            rw [readFilter_combinator_succ hword hname] at h
            have hstart := readName_append_eq (dropBlanks cs)
            rw [hname] at hstart
            rw [← hstart]
            exact stuck_combined hword (stuck_readChildren readFilter_sound
              (ih inner (Nat.lt_succ_self inner)) (spellsWithin_shortest inner)
              (map_eq_error_iff.mp h))
      · rw [htest, hstart] at h
        rw [hstart]
        exact stuck_readTestNamed h

/-! ## Whole texts -/

/-- A text that is refused is in order up to the place of the error. -/
theorem stuck_read {limit : Nat} {source : List Char} {m : Mismatch}
    (h : read limit source = .error m) :
    Stuck (fun text => ∃ d, read limit text = .ok (some d)) source m := by
  obtain ⟨u, hu, hsource⟩ := exists_eq_append_dropBlanks source
  rw [read] at h
  split at h
  · cases h
  · split at h
    · next e hread =>
        cases h
        rw [hsource]
        refine (stuck_readFilter hread).behind fun text htext => ⟨[], ?_⟩
        obtain ⟨w, body, d, hw, rfl, hspells, hdeep⟩ := htext
        refine ⟨d, read_eq_some_iff.mpr ⟨?_, hdeep⟩⟩
        rw [← List.append_assoc]
        exact .intro (hu.append hw) hspells .nil
    · next d rest hread =>
        obtain ⟨w, text, hw, hstart, hspells, hdeep⟩ := readFilter_sound hread
        split at h
        · cases h
        · cases h
          obtain ⟨v, hv, hrest⟩ := exists_eq_append_dropBlanks rest
          refine .here (u := u ++ w ++ text ++ v) (v := []) ?_ ?_ (.next (by simp))
          · rw [hsource, hstart, hrest, dropBlanks_append hv, dropBlanks_dropBlanks]
            simp only [List.append_assoc]
          · rw [List.append_nil]
            exact ⟨d, read_eq_some_iff.mpr ⟨.intro (hu.append hw) hspells hv, hdeep⟩⟩

/-! ## What the message says

Messages are texts, so what an error found has to be told from the message
alone: a quoted text starts with a quote and the other three answers do not.
Of all that can be expected only the closing quote starts with the letter
that it starts with. -/

theorem quoted_injective {v w : String} (h : "'" ++ v ++ "'" = "'" ++ w ++ "'") : v = w :=
  (String.append_right_inj "'").mp ((String.append_left_inj "'").mp h)

theorem head?_toList_append {s t : String} {c : Char} (h : s.toList.head? = some c) :
    (s ++ t).toList.head? = some c := by
  rw [String.toList_append, List.head?_append, h]
  rfl

theorem quoted_ne {w s : String} (h : s.toList.head? ≠ some '\'') : "'" ++ w ++ "'" ≠ s := by
  rintro rfl
  exact h (head?_toList_append (head?_toList_append rfl))

theorem expected_of_message {expected : Expected} (h : expected.message = "closing quote") :
    expected = .closingQuote := by
  have hfirst : ∀ {c}, expected.message.toList.head? = some c → c = 'c' := by
    intro c hc
    rw [h] at hc
    exact (Option.some.inj hc).symm
  have hparts : ∀ {c : Char} {s t v : String}, expected.message = s ++ t ++ v →
      s.toList.head? = some c → c = 'c' := by
    intro c s t v hmessage hs
    refine hfirst ?_
    rw [hmessage]
    exact head?_toList_append (head?_toList_append hs)
  cases expected with
  | closingQuote => rfl
  | symbol c => exact absurd (hparts (c := '\'') rfl rfl) (by decide)
  | nesting limit => exact absurd (hparts (c := 'a') rfl rfl) (by decide)
  | patterns owner => exact absurd (hparts (c := 'q') rfl rfl) (by decide)
  | nonEmptyPatterns owner => exact absurd (hparts (c := 'n') rfl rfl) (by decide)
  | filter | children | childSeparator | noArguments | predicate | pattern
  | argumentSeparator | endOfInput => exact absurd h (by decide)

section

variable {m : Mismatch}

theorem Shown.quoted {w : String} (hm : Shown m)
    (h : m.found.message m.rest = "'" ++ w ++ "'") : ∃ behind, m.rest = w.toList ++ behind := by
  cases hm with
  | @next rest expected =>
      cases rest with
      | nil => exact absurd h.symm (quoted_ne (s := "end of input") (by decide))
      | cons c cs =>
          have hw : String.singleton c = w := quoted_injective h
          exact ⟨cs, by rw [← hw, String.toList_singleton]; rfl⟩
  | @name name rest expected =>
      have hw : String.ofList name = w := quoted_injective h
      exact ⟨rest, by rw [← hw, String.toList_ofList]⟩
  | deeper => exact absurd h.symm (quoted_ne (s := "deeper nesting") (by decide))
  | emptyPattern => exact absurd h.symm (quoted_ne (s := "empty pattern") (by decide))
  | unclosed => exact absurd h.symm (quoted_ne (s := "end of input") (by decide))

theorem Shown.endOfInput (hm : Shown m) (h : m.found.message m.rest = "end of input")
    (hexpected : m.expected.message ≠ "closing quote") : m.rest = [] := by
  cases hm with
  | @next rest expected =>
      cases rest with
      | nil => rfl
      | cons c cs => exact absurd h (quoted_ne (by decide))
  | name => exact absurd h (quoted_ne (by decide))
  | deeper => exact absurd (show "deeper nesting" = "end of input" from h) (by decide)
  | emptyPattern => exact absurd (show "empty pattern" = "end of input" from h) (by decide)
  | unclosed => exact absurd rfl hexpected

theorem Shown.unclosed_quote (hm : Shown m) (h : m.found.message m.rest = "end of input")
    (hexpected : m.expected.message = "closing quote") : ∃ behind, m.rest = '\'' :: behind := by
  cases hm with
  | next hne => exact absurd (expected_of_message hexpected) hne
  | name => exact absurd h (quoted_ne (by decide))
  | deeper => exact absurd (show "deeper nesting" = "end of input" from h) (by decide)
  | emptyPattern | unclosed => exact ⟨_, rfl⟩

theorem Shown.emptyPattern_quote (hm : Shown m) (h : m.found.message m.rest = "empty pattern") :
    ∃ behind, m.rest = '\'' :: behind := by
  cases hm with
  | @next rest expected =>
      cases rest with
      | nil => exact absurd (show "end of input" = "empty pattern" from h) (by decide)
      | cons c cs => exact absurd h (quoted_ne (by decide))
  | name => exact absurd h (quoted_ne (by decide))
  | deeper => exact absurd (show "deeper nesting" = "empty pattern" from h) (by decide)
  | emptyPattern | unclosed => exact ⟨_, rfl⟩

theorem Shown.keyword (hm : Shown m) (h : m.found.message m.rest = "deeper nesting") :
    ∃ keyword behind, readName m.rest = (keyword, behind) ∧
      (keyword = ['a', 'n', 'd'] ∨ keyword = ['o', 'r']) := by
  cases hm with
  | @next rest expected =>
      cases rest with
      | nil => exact absurd (show "end of input" = "deeper nesting" from h) (by decide)
      | cons c cs => exact absurd h (quoted_ne (by decide))
  | name => exact absurd h (quoted_ne (by decide))
  | deeper hname hword => exact ⟨_, _, hname, hword⟩
  | emptyPattern => exact absurd (show "empty pattern" = "deeper nesting" from h) (by decide)
  | unclosed => exact absurd (show "end of input" = "deeper nesting" from h) (by decide)

end

end Definition

/-- An error in the writing stands behind a beginning of the text that can be
continued to a text that is read, and it tells what the text goes on with:
the quoted text, nothing, an opening quote or the word of a combinator. -/
theorem Filter.parse_error_completable {options : ParseOptions} {source : String}
    {position : Nat} {expected found : String}
    (h : Filter.parse options source = .error (.parse position expected found)) :
    ∃ u rest : String, source = u ++ rest ∧ position = u.utf8ByteSize ∧
      (∃ v d, Definition.read options.maxDepth.toNat (u ++ v).toList = .ok (some d)) ∧
      (∀ w, found = "'" ++ w ++ "'" → ∃ behind, rest = w ++ behind) ∧
      (found = "end of input" → expected ≠ "closing quote" → rest = "") ∧
      (found = "end of input" ∧ expected = "closing quote" ∨ found = "empty pattern" →
        ∃ behind, rest = "'" ++ behind) ∧
      (found = "deeper nesting" → ∃ keyword behind : String,
        (keyword = "and" ∨ keyword = "or") ∧ rest = keyword ++ behind ∧
          Definition.Stops Definition.isNameChar behind.toList) := by
  rw [Filter.parse, Filter.ofChars] at h
  split at h
  · next m hread =>
      obtain ⟨⟨u, v, hsource, d, hd⟩, hm⟩ := Definition.stuck_read hread
      obtain ⟨hposition, hexpected, hfound⟩ := FilterError.parse.inj (Except.error.inj h)
      -- What follows the place is carried back from lists of characters.
      have hrest : ∀ {s : String} {cs : List Char}, m.rest = s.toList ++ cs →
          String.ofList m.rest = s ++ String.ofList cs := by
        intro s cs hcs
        rw [hcs, String.ofList_append, String.ofList_toList]
      refine ⟨String.ofList u, String.ofList m.rest, ?_, ?_, ⟨String.ofList v, d, ?_⟩, ?_, ?_,
        ?_, ?_⟩
      · rw [← String.ofList_append, ← hsource, String.ofList_toList]
      · rw [← hposition, hsource, Text.utf8Length_append, Nat.add_sub_cancel,
          Text.utf8ByteSize_ofList]
      · rw [← String.ofList_append, String.toList_ofList]
        exact hd
      · intro w hw
        obtain ⟨behind, hbehind⟩ := hm.quoted (hfound.trans hw)
        exact ⟨String.ofList behind, hrest hbehind⟩
      · intro hend hquote
        rw [hm.endOfInput (hfound.trans hend) (hexpected ▸ hquote)]
      · intro hquote
        obtain ⟨behind, hbehind⟩ : ∃ behind, m.rest = '\'' :: behind := by
          rcases hquote with ⟨hend, hclosing⟩ | hempty
          · exact hm.unclosed_quote (hfound.trans hend) (hexpected.trans hclosing)
          · exact hm.emptyPattern_quote (hfound.trans hempty)
        exact ⟨String.ofList behind, hrest (s := "'") hbehind⟩
      · intro hdeep
        obtain ⟨keyword, behind, hname, hword⟩ := hm.keyword (hfound.trans hdeep)
        have hsplit := Definition.readName_append_eq m.rest
        rw [hname] at hsplit
        refine ⟨String.ofList keyword, String.ofList behind, ?_, ?_, ?_⟩
        · rcases hword with rfl | rfl
          · exact .inl rfl
          · exact .inr rfl
        · rw [← String.ofList_append, hsplit]
        · rw [String.toList_ofList]
          intro c hc
          have hdrop := List.head?_dropWhile_not Definition.isNameChar m.rest
          rw [(Prod.mk.inj hname).2, hc] at hdrop
          exact hdrop
  · cases h
  · cases Definition.isCompile_of_lower h

theorem Filter.parse_error_completable_of_open_group :
    Filter.parse .default "or\x7bFolder() ,\u3000Name(+'a" =
        .error (.parse 22 "closing quote" "end of input") ∧
      ∃ u rest : String, "or\x7bFolder() ,\u3000Name(+'a" = u ++ rest ∧ 22 = u.utf8ByteSize ∧
        (∃ v d, Definition.read ParseOptions.default.maxDepth.toNat (u ++ v).toList =
          .ok (some d)) ∧
        ∃ behind, rest = "'" ++ behind := by
  have hparse : Filter.parse .default "or\x7bFolder() ,\u3000Name(+'a" =
      .error (.parse 22 "closing quote" "end of input") := by
    have hread : Definition.read 64 "or\x7bFolder() ,\u3000Name(+'a".toList =
        .error ⟨['\'', 'a'], .closingQuote, .endOfInput⟩ := by decide +kernel
    rw [Filter.parse, Filter.ofChars]
    rw [show ParseOptions.default.maxDepth.toNat = 64 from rfl, hread]
    rfl
  obtain ⟨u, rest, hsource, hposition, hread, -, -, hquote, -⟩ :=
    Filter.parse_error_completable hparse
  exact ⟨hparse, u, rest, hsource, hposition, hread, hquote (.inl ⟨rfl, rfl⟩)⟩

end NodeSieve
