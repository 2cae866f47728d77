import NodeSieve.Filter.Verdict
import NodeSieve.Proofs.Lowering

/-!
# What a definition means

A definition can be read without compiling it: each combinator says something
about its children, and each test says with its sign that some text of the
resource is matched by one of its patterns, or that none is. `Holds` is that
reading. Lowering keeps it.

The one place where the filter does not look like the definition is a test for
several types. Its rules may send each type to another field, so it becomes
one test for each type, and those have to be put together again: with `+` one
of them has to hold, with `-` all of them. That gives back the one test only
because `-` is applied to each type on its own, and "none of these matches" is
"this does not match" for each. So the sign comes out once, in front of the
whole list (`accepts_joinTypes_iff`).
-/

namespace NodeSieve

/-! ## What a test says -/

/-- What a sign makes of a statement: `+` keeps it and `-` denies it. -/
def Sign.Says (sign : Sign) (p : Prop) : Prop :=
  match sign with
  | .include => p
  | .exclude => ¬ p

theorem Sign.apply_eq_true_iff (sign : Sign) {b : Bool} {p : Prop} (h : b = true ↔ p) :
    sign.apply b = true ↔ sign.Says p := by
  cases sign
  · exact h
  · rw [Sign.apply, Bool.not_eq_true', ← Bool.not_eq_true]
    exact not_congr h

theorem Sign.says_flip_iff (sign : Sign) {p : Prop} : sign.flip.Says p ↔ ¬ sign.Says p := by
  cases sign
  · exact Iff.rfl
  · exact Classical.not_not.symm

/-- Which texts a resource has in a field. A field that is absent has none,
and the field of mixin types has them all. -/
def Field.HasText (r : Resource) : Field → String → Prop
  | .name, text => text = r.name
  | .path, text => text = r.path
  | .primaryType, text => text = r.primaryType
  | .resourceType, text => r.resourceType = some text
  | .mimeType, text => r.mimeType = some text
  | .mixinType, text => text ∈ r.mixinTypes

/-- Which texts of a resource a type is compared with, by the target that the
rules give it. -/
def TypeTarget.HasText (r : Resource) : TypeTarget → String → Prop
  | .primaryType, text => text = r.primaryType
  | .mixinType, text => text ∈ r.mixinTypes
  | .generic, text => text = r.primaryType ∨ text ∈ r.mixinTypes

theorem Field.mem_subjects_iff {r : Resource} {f : Field} {text : String} :
    text ∈ f.subjects r ↔ f.HasText r text := by
  cases f with
  | name | path | primaryType => exact List.mem_singleton
  | resourceType | mimeType => exact Option.mem_toList
  | mixinType => exact Iff.rfl

theorem mem_subjects_resolve_iff {rules : TypeRules} {name : List Char} {r : Resource}
    {text : String} :
    text ∈ (rules.resolve name).subjects r ↔ (rules.target name).HasText r text := by
  rw [TypeRules.resolve]
  cases rules.target name with
  | primaryType => exact Field.mem_subjects_iff (f := .primaryType)
  | mixinType => exact Field.mem_subjects_iff (f := .mixinType)
  | generic => exact List.mem_cons

/-- A text is matched by the pattern that a source spells under some
options. -/
def Pattern.Matches (options : PatternOptions) (source : List Char) (text : String) : Prop :=
  ∃ p, Pattern.ofChars options source = .ok p ∧ p.isMatch text = true

theorem Pattern.matches_iff {options : PatternOptions} {source : List Char} {p : Pattern}
    {text : String} (h : Pattern.ofChars options source = .ok p) :
    Pattern.Matches options source text ↔ p.isMatch text = true := by
  constructor
  · intro hmatch
    obtain ⟨q, hq, hmatch⟩ := hmatch
    rwa [Except.ok.inj (h.symm.trans hq)]
  · exact fun hmatch => ⟨p, h, hmatch⟩

namespace Definition

/-- A pattern matches some text in a field of a resource. -/
def Hits (options : ParseOptions) (r : Resource) (f : Field) (source : List Char) : Prop :=
  ∃ text, f.HasText r text ∧ Pattern.Matches options.pattern source text

/-- A type as it is written, without its escapes, is found where the first
rule for it says. -/
def Finds (options : ParseOptions) (r : Resource) (literal : List Char) : Prop :=
  ∃ target text, options.typeRules.Selects (unescape literal) target ∧
    target.HasText r text ∧
    Pattern.Matches options.pattern (Pattern.literalSource (unescape literal)) text

/-- What a definition says of a resource. -/
inductive Holds (options : ParseOptions) (r : Resource) : Definition → Prop
  | folder (h : r.isFolder = true) : Holds options r .folder
  | all {ds : List Definition} (h : ∀ d ∈ ds, Holds options r d) : Holds options r (.all ds)
  | any {ds : List Definition} {d : Definition} (hd : d ∈ ds) (h : Holds options r d) :
      Holds options r (.any ds)
  | field {f : Field} {sign : Sign} {sources : List (List Char)}
      (h : sign.Says (∃ source ∈ sources, Hits options r f source)) :
      Holds options r (.field f sign sources)
  | type {sign : Sign} {literals : List (List Char)}
      (h : sign.Says (∃ literal ∈ literals, Finds options r literal)) :
      Holds options r (.type sign literals)

section

variable {options : ParseOptions} {r : Resource}

theorem holds_folder_iff : Holds options r .folder ↔ r.isFolder = true :=
  ⟨fun h => by cases h; assumption, .folder⟩

theorem holds_all_iff {ds : List Definition} :
    Holds options r (.all ds) ↔ ∀ d ∈ ds, Holds options r d :=
  ⟨fun h => by cases h; assumption, .all⟩

theorem holds_any_iff {ds : List Definition} :
    Holds options r (.any ds) ↔ ∃ d ∈ ds, Holds options r d := by
  constructor
  · intro h
    cases h with
    | any hd h => exact ⟨_, hd, h⟩
  · intro h
    obtain ⟨d, hd, h⟩ := h
    exact .any hd h

theorem holds_field_iff {f : Field} {sign : Sign} {sources : List (List Char)} :
    Holds options r (.field f sign sources) ↔
      sign.Says (∃ source ∈ sources, Hits options r f source) :=
  ⟨fun h => by cases h; assumption, .field⟩

theorem holds_type_iff {sign : Sign} {literals : List (List Char)} :
    Holds options r (.type sign literals) ↔
      sign.Says (∃ literal ∈ literals, Finds options r literal) :=
  ⟨fun h => by cases h; assumption, .type⟩

/-! ## Tests -/

theorem accepts_leaf_iff {f : Field} {sign : Sign} {sources : List (List Char)}
    {ps : List Pattern}
    (h : List.Forall₂ (fun source p => Pattern.ofChars options.pattern source = .ok p)
      sources ps) :
    Filter.accepts r (.leaf (.field f) sign ps) = true ↔ Holds options r (.field f sign sources) := by
  rw [holds_field_iff, Filter.accepts]
  refine sign.apply_eq_true_iff (Filter.anyMatch_iff.trans (exists_mem_congr h ?_))
  intro source _ p hp
  exact exists_congr fun text =>
    and_congr Field.mem_subjects_iff (Pattern.matches_iff hp).symm

theorem accepts_lowerType_iff {sign : Sign} {literal : List Char} {leaf : Filter}
    (h : lowerType options sign literal = .ok leaf) :
    Filter.accepts r leaf = true ↔ sign.Says (Finds options r literal) := by
  obtain ⟨p, hp, rfl⟩ := lowerType_eq_ok_iff.mp h
  rw [Filter.accepts]
  refine sign.apply_eq_true_iff ?_
  simp only [Filter.anyMatch_iff, List.mem_singleton, exists_eq_left, mem_subjects_resolve_iff,
    Finds, TypeRules.selects_iff]
  constructor
  · intro h
    obtain ⟨text, htext, hmatch⟩ := h
    exact ⟨_, text, rfl, htext, (Pattern.matches_iff hp).mpr hmatch⟩
  · intro h
    obtain ⟨_, text, rfl, htext, hmatch⟩ := h
    exact ⟨text, htext, (Pattern.matches_iff hp).mp hmatch⟩

theorem accepts_joinTypes_eq (r : Resource) (sign : Sign) (leaves : List Filter) :
    Filter.accepts r (joinTypes sign leaves) =
      match sign with
      | .include => Filter.accepts r (.any leaves)
      | .exclude => Filter.accepts r (.all leaves) := by
  rw [joinTypes.eq_def]
  split
  -- One test alone is what either combinator makes of it.
  · cases sign
    · show _ = Filter.accepts r (.any _)
      rw [Filter.accepts, Filter.anyAccepts, Filter.anyAccepts, Bool.or_false]
    · show _ = Filter.accepts r (.all _)
      rw [Filter.accepts, Filter.allAccept, Filter.allAccept, Bool.and_true]
  · cases sign <;> rfl

/-- The tests for several types, each with the sign, are one test with the
sign in front. -/
theorem accepts_joinTypes_iff {sign : Sign} {leaves : List Filter} {literals : List (List Char)}
    (h : List.Forall₂ (fun literal leaf => lowerType options sign literal = .ok leaf)
      literals leaves) :
    Filter.accepts r (joinTypes sign leaves) = true ↔
      Holds options r (.type sign literals) := by
  rw [accepts_joinTypes_eq, holds_type_iff]
  cases sign
  · rw [Filter.accepts_any_iff]
    exact exists_mem_congr h fun _ _ _ => accepts_lowerType_iff
  · rw [Filter.accepts_all_iff, forall_mem_congr h fun _ _ _ => accepts_lowerType_iff]
    simp only [Sign.Says, not_exists, not_and]

end

/-! ## Definitions -/

theorem accepts_iff_holds {options : ParseOptions} (r : Resource) {d : Definition} {t : Filter}
    (h : d.lower options = .ok t) : t.accepts r = true ↔ d.Holds options r := by
  induction d using Definition.induction generalizing t with
  | folder =>
      rw [lower] at h
      rw [holds_folder_iff, ← Except.ok.inj h, Filter.accepts]
  | all ds ih =>
      rw [lower] at h
      obtain ⟨xs, hxs, rfl⟩ := map_eq_ok_iff.mp h
      have hxs := lowerAll_eq_ok_iff.mp hxs
      rw [Filter.accepts_all_iff, holds_all_iff]
      exact forall_mem_congr hxs fun d hd _ => ih d hd
  | any ds ih =>
      rw [lower] at h
      obtain ⟨xs, hxs, rfl⟩ := map_eq_ok_iff.mp h
      have hxs := lowerAll_eq_ok_iff.mp hxs
      rw [Filter.accepts_any_iff, holds_any_iff]
      exact exists_mem_congr hxs fun d hd _ => ih d hd
  | field f sign sources =>
      rw [lower] at h
      obtain ⟨ps, hps, rfl⟩ := map_eq_ok_iff.mp h
      exact accepts_leaf_iff (lowerPatterns_eq_ok_iff.mp hps)
  | type sign literals =>
      rw [lower] at h
      obtain ⟨leaves, hleaves, rfl⟩ := map_eq_ok_iff.mp h
      exact accepts_joinTypes_iff (lowerTypes_eq_ok_iff.mp hleaves)

theorem exists_lower_type_iff {options : ParseOptions} {sign : Sign}
    {literals : List (List Char)} :
    (∃ t, (Definition.type sign literals).lower options = .ok t) ↔
      ∀ literal ∈ literals,
        ∃ p, Pattern.literal options.pattern (unescape literal) = .ok p := by
  simp only [lower, map_eq_ok_iff]
  constructor
  · intro h
    obtain ⟨_, leaves, hleaves, -⟩ := h
    exact exists_lowerTypes_iff.mp ⟨leaves, hleaves⟩
  · intro h
    obtain ⟨leaves, hleaves⟩ := exists_lowerTypes_iff.mpr h
    exact ⟨_, leaves, hleaves, rfl⟩

/-- A test for types with the other sign is there as well, and it is the
complement. -/
theorem exists_lower_type_flip {options : ParseOptions} {sign : Sign}
    {literals : List (List Char)} {t : Filter}
    (h : (Definition.type sign literals).lower options = .ok t) :
    ∃ t', (Definition.type sign.flip literals).lower options = .ok t' ∧
      ∀ r, t'.accepts r = !t.accepts r := by
  obtain ⟨t', ht'⟩ := exists_lower_type_iff.mpr (exists_lower_type_iff.mp ⟨t, h⟩)
  refine ⟨t', ht', fun r => ?_⟩
  rw [Bool.eq_iff_iff, Bool.not_eq_true', ← Bool.not_eq_true, accepts_iff_holds r ht',
    accepts_iff_holds r h, holds_type_iff, holds_type_iff]
  exact sign.says_flip_iff

/-- Lowering keeps what a definition says. A filter that it gives accepts the
resources that the definition holds of; and tests for types keep being one
test, however many types there are and wherever the rules look for them, so
that the sign `-` makes the complement of `+`. -/
theorem lower_keeps_meaning {options : ParseOptions} {d : Definition} {t : Filter}
    (h : d.lower options = .ok t) :
    (∀ r, t.accepts r = true ↔ d.Holds options r) ∧
      ∀ sign literals, d = .type sign literals →
        ∃ t', (Definition.type sign.flip literals).lower options = .ok t' ∧
          ∀ r, t'.accepts r = !t.accepts r := by
  refine ⟨fun r => accepts_iff_holds r h, ?_⟩
  intro sign literals hd
  subst hd
  exact exists_lower_type_flip h

/-- Three types that the rules look for in three places, under `-`: a node
whose primary type is one of them, and one that has two of the names only
where the rules do not look. -/
theorem lower_keeps_meaning_of_mixed_types :
    let options : ParseOptions :=
      { ParseOptions.default with
        typeRules := ⟨[⟨"mix:", .mixinType⟩, ⟨"nt:", .primaryType⟩]⟩ }
    let d := Definition.type .exclude ["mix:a".toList, "nt:b\\,c".toList, "d".toList]
    let file := (Resource.ofPath "/x").withPrimaryType "nt:b,c"
    let mixed := ((Resource.ofPath "/y").withPrimaryType "mix:a").withMixinType "nt:b,c"
    ∃ t, d.lower options = .ok t ∧
      (t.accepts file = false ∧ ¬ d.Holds options file) ∧
      t.accepts mixed = true ∧ d.Holds options mixed := by
  intro options d file mixed
  have hlower : (d.lower options).map (fun t => (t.accepts file, t.accepts mixed)) =
      .ok (false, true) := by
    decide +kernel
  obtain ⟨t, ht, haccepts⟩ := map_eq_ok_iff.mp hlower
  obtain ⟨hfile, hmixed⟩ := Prod.mk.inj haccepts
  obtain ⟨hmeaning, -⟩ := lower_keeps_meaning ht
  refine ⟨t, ht, ⟨hfile, ?_⟩, hmixed, (hmeaning mixed).mp hmixed⟩
  rw [← hmeaning file, hfile]
  exact Bool.false_ne_true

end Definition

end NodeSieve
