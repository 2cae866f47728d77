import NodeSieve.Filter.Compiled
import NodeSieve.Proofs.Lowering
import NodeSieve.Proofs.Quoting

/-!
# The shape of what is compiled

The readers of a compiled filter (its evaluation, its text, equality) rely on
things that no constructor enforces: that combinators have children, that
tests have patterns, that a test for a type has the one pattern that belongs
to its tag. They hold because the reader gives only `Regular` definitions and
lowering turns these into `Shaped` filters.
-/

namespace NodeSieve

open NodeSieve.Unicode

namespace Definition

/-- What a definition that has been read is made of. -/
inductive Regular : Definition → Prop
  | folder : Regular .folder
  | all {ds : List Definition} (hne : ds ≠ []) (h : ∀ d ∈ ds, Regular d) :
      Regular (.all ds)
  | any {ds : List Definition} (hne : ds ≠ []) (h : ∀ d ∈ ds, Regular d) :
      Regular (.any ds)
  | field {f : Field} {sign : Sign} {patterns : List (List Char)} (hne : patterns ≠ [])
      (h : ∀ p ∈ patterns, PatternText p) : Regular (.field f sign patterns)
  | type {sign : Sign} {literals : List (List Char)} (hne : literals ≠ []) :
      Regular (.type sign literals)

theorem Separated.ne_nil {α : Type} {item : List Char → α → Prop} {body : List Char}
    {as : List α} (h : Separated item body as) : as ≠ [] := by
  cases h <;> exact List.cons_ne_nil _ _

theorem Separated.forall {α : Type} {item : List Char → α → Prop} {good : α → Prop}
    {body : List Char} {as : List α} (h : Separated item body as)
    (hitem : ∀ text a, item text a → good a) : ∀ a ∈ as, good a := by
  induction h with
  | one _ h _ => exact List.forall_mem_singleton.mpr (hitem _ _ h)
  | more _ h _ _ ih => exact List.forall_mem_cons.mpr ⟨hitem _ _ h, ih⟩

theorem Argument.ne_nil {allowBare : Bool} {text : List Char} {texts : List (List Char)}
    (h : Argument allowBare text texts) : texts ≠ [] := by
  cases h with
  | quoted =>
      intro hnil
      exact splitPatterns_ne_nil _ (List.map_eq_nil_iff.mp hnil)
  | bare => exact List.cons_ne_nil _ _

theorem Argument.patternText {text : List Char} {texts : List (List Char)}
    (h : Argument false text texts) : ∀ p ∈ texts, PatternText p := by
  cases h with
  | quoted hcontent hne => exact fun p => patternText_of_group hcontent hne
  | bare hallow => cases hallow

theorem Argument.forall_ne_nil {allowBare : Bool} {text : List Char}
    {texts : List (List Char)} (h : Argument allowBare text texts) : ∀ p ∈ texts, p ≠ [] := by
  cases h with
  | quoted _ hne =>
      intro p hp hnil
      exact hne (hnil ▸ hp)
  | bare _ hne => exact List.forall_mem_singleton.mpr hne

/-- The texts of a test are those of its arguments. -/
theorem Signed.exists_arguments {allowBare : Bool} {text : List Char} {sign : Sign}
    {texts : List (List Char)} (h : Signed allowBare text sign texts) :
    ∃ front body args, text = front ++ body ∧ Separated (Argument allowBare) body args ∧
      texts = args.flatten := by
  cases h with
  | @written u body args _ _ hbody =>
      exact ⟨u ++ [sign.symbol], body, args, (List.append_cons ..), hbody, rfl⟩
  | omitted _ hbody => exact ⟨[], _, _, rfl, hbody, rfl⟩

theorem Signed.ne_nil {allowBare : Bool} {text : List Char} {sign : Sign}
    {texts : List (List Char)} (h : Signed allowBare text sign texts) : texts ≠ [] := by
  obtain ⟨_, body, args, -, hbody, rfl⟩ := h.exists_arguments
  obtain ⟨arg, args, rfl⟩ := List.exists_cons_of_ne_nil hbody.ne_nil
  have harg := hbody.forall (fun _ _ => Argument.ne_nil) arg (List.mem_cons_self ..)
  rw [List.flatten_cons]
  exact List.append_ne_nil_of_left_ne_nil harg _

theorem Signed.forall {allowBare : Bool} {text : List Char} {sign : Sign}
    {texts : List (List Char)} {good : List Char → Prop} (h : Signed allowBare text sign texts)
    (hargument : ∀ text texts, Argument allowBare text texts → ∀ p ∈ texts, good p) :
    ∀ p ∈ texts, good p := by
  obtain ⟨_, body, args, -, hbody, rfl⟩ := h.exists_arguments
  intro p hp
  obtain ⟨arg, harg, hp⟩ := List.mem_flatten.mp hp
  exact hbody.forall hargument arg harg p hp

theorem Signed.patternText {text : List Char} {sign : Sign} {texts : List (List Char)}
    (h : Signed false text sign texts) : ∀ p ∈ texts, PatternText p :=
  h.forall fun _ _ => Argument.patternText

theorem Spells.regular {text : List Char} {d : Definition} (h : Spells text d) :
    Regular d := by
  refine @Spells.rec (fun _ d _ => Regular d) (fun _ ds _ => ds ≠ [] ∧ ∀ d ∈ ds, Regular d)
    ?all ?any ?field ?type ?folder ?one ?more text d h
  case all => exact fun _ _ ih => .all ih.1 ih.2
  case any => exact fun _ _ ih => .any ih.1 ih.2
  case field => exact fun _ _ htest => .field htest.ne_nil htest.patternText
  case type => exact fun _ htest => .type htest.ne_nil
  case folder => exact fun _ _ => .folder
  case one =>
      exact fun _ _ _ ih => ⟨List.cons_ne_nil _ _, List.forall_mem_singleton.mpr ih⟩
  case more =>
      exact fun _ _ _ _ ih ihs =>
        ⟨List.cons_ne_nil _ _, List.forall_mem_cons.mpr ⟨ih, ihs.2⟩⟩

theorem SpelledBy.regular {d : Definition} {source : List Char} (h : SpelledBy d source) :
    Regular d := by
  cases h with
  | intro _ hspells _ => exact hspells.regular

end Definition

/-! ## Filters -/

namespace Filter

open Definition

/-- What a filter that has been compiled under some options is made of, unless
it accepts everything. -/
inductive Shaped (options : ParseOptions) : Filter → Prop
  | folder : Shaped options .folder
  | all {xs : List Filter} (hne : xs ≠ []) (h : ∀ x ∈ xs, Shaped options x) :
      Shaped options (.all xs)
  | any {xs : List Filter} (hne : xs ≠ []) (h : ∀ x ∈ xs, Shaped options x) :
      Shaped options (.any xs)
  | field {f : Field} {sign : Sign} {ps : List Pattern} (hne : ps ≠ [])
      (h : ∀ p ∈ ps, PatternText p.source.toList ∧
        Pattern.ofChars options.pattern p.source.toList = .ok p) :
      Shaped options (.leaf (.field f) sign ps)
  | generic {tag : String} {sign : Sign} {p : Pattern}
      (hp : Pattern.literal options.pattern tag.toList = .ok p)
      (htag : options.typeRules.resolve tag.toList = .genericType tag) :
      Shaped options (.leaf (.genericType tag) sign [p])

theorem shaped_of_lowerType {options : ParseOptions} {sign : Sign} {literal : List Char}
    {leaf : Filter} (h : lowerType options sign literal = .ok leaf) :
    Shaped options leaf := by
  obtain ⟨p, hp, rfl⟩ := lowerType_eq_ok_iff.mp h
  cases htag : options.typeRules.resolve (unescape literal) with
  | field f =>
      refine .field (List.cons_ne_nil _ _) (List.forall_mem_singleton.mpr ?_)
      rw [source_of_ofChars hp]
      exact ⟨patternText_literalSource _, hp⟩
  | genericType tag =>
      have hname := resolve_generic htag
      rw [hname] at hp htag
      exact .generic hp htag

theorem shaped_joinTypes {options : ParseOptions} {sign : Sign} {leaves : List Filter}
    (hne : leaves ≠ []) (h : ∀ x ∈ leaves, Shaped options x) :
    Shaped options (joinTypes sign leaves) := by
  rw [joinTypes.eq_def]
  split
  · exact h _ (List.mem_singleton_self _)
  · cases sign
    · exact .any hne h
    · exact .all hne h

/-- Lowering what has been read gives a filter of the shape that its readers
rely on. -/
theorem shaped_of_lower {options : ParseOptions} {d : Definition} (hd : Regular d)
    {t : Filter} (h : d.lower options = .ok t) : Shaped options t := by
  induction hd generalizing t with
  | folder =>
      rw [lower] at h
      cases h
      exact .folder
  | all hne _ ih =>
      rw [lower] at h
      obtain ⟨xs, hxs, rfl⟩ := map_eq_ok_iff.mp h
      have hxs := lowerAll_eq_ok_iff.mp hxs
      exact .all (forall₂_ne_nil hxs hne) (forall_of_forall₂ hxs fun d hd x => ih d hd)
  | any hne _ ih =>
      rw [lower] at h
      obtain ⟨xs, hxs, rfl⟩ := map_eq_ok_iff.mp h
      have hxs := lowerAll_eq_ok_iff.mp hxs
      exact .any (forall₂_ne_nil hxs hne) (forall_of_forall₂ hxs fun d hd x => ih d hd)
  | field hne htexts =>
      rw [lower] at h
      obtain ⟨ps, hps, rfl⟩ := map_eq_ok_iff.mp h
      have hps := lowerPatterns_eq_ok_iff.mp hps
      refine .field (forall₂_ne_nil hps hne) (forall_of_forall₂ hps ?_)
      intro source hsource p hp
      rw [source_of_ofChars hp]
      exact ⟨htexts source hsource, hp⟩
  | type hne =>
      rw [lower] at h
      obtain ⟨leaves, hleaves, rfl⟩ := map_eq_ok_iff.mp h
      have hleaves := lowerTypes_eq_ok_iff.mp hleaves
      exact shaped_joinTypes (forall₂_ne_nil hleaves hne)
        (forall_of_forall₂ hleaves fun _ _ _ => shaped_of_lowerType)

/-- A text has a filter if it is blank, or if it spells a definition within
the limit that can be lowered. -/
theorem ofChars_eq_ok_iff {options : ParseOptions} {source : List Char} {t : Filter} :
    ofChars options source = .ok t ↔
      AllBlank source ∧ t = .acceptAll ∨
        ∃ d, SpelledBy d source ∧ d.nesting ≤ options.maxDepth.toNat ∧
          d.lower options = .ok t := by
  constructor
  · intro h
    rw [ofChars] at h
    split at h
    · cases h
    · next hread => exact .inl ⟨read_eq_none_iff.mp hread, (Except.ok.inj h).symm⟩
    · next d hread =>
        obtain ⟨hd, hnesting⟩ := read_eq_some_iff.mp hread
        exact .inr ⟨d, hd, hnesting, h⟩
  · intro h
    rw [ofChars]
    rcases h with ⟨hblank, rfl⟩ | ⟨d, hd, hnesting, hlower⟩
    · rw [read_eq_none_iff.mpr hblank]
    · rw [read_eq_some_iff.mpr ⟨hd, hnesting⟩]
      exact hlower

/-- A filter that was compiled from a text is empty or has the shape. -/
theorem shaped_of_ofChars {options : ParseOptions} {source : List Char} {t : Filter}
    (h : ofChars options source = .ok t) : t = .acceptAll ∨ Shaped options t := by
  rcases ofChars_eq_ok_iff.mp h with ⟨-, rfl⟩ | ⟨d, hspelled, -, hlower⟩
  · exact .inl rfl
  · exact .inr (shaped_of_lower hspelled.regular hlower)

end Filter

end NodeSieve
