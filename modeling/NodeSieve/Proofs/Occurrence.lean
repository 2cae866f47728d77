import NodeSieve.Proofs.Shape

/-!
# Inside a compiled filter

`Shaped` is what a filter is made of, and the readers of a filter meet it part
by part. Since the shape of a filter is that of its children, every part has
it as well (`Shaped.of_occurs`), and what no shape allows does not occur at
all: the filter that accepts everything is the whole of a blank text and no
part of any other.

How deep a filter is does not follow from its shape. The reader counts
combinators, and two levels come on top: the tests below the innermost
combinator, and the combinator that lowering makes of a test for several
types.
-/

namespace NodeSieve

open NodeSieve.Unicode

/-! ## The text of a pattern -/

/-- A text that can stand between quotes: it has no blanks at its ends, and in
front of each quote in it a backslash is open. -/
structure Definition.Quotable (text : List Char) : Prop where
  ne_nil : text ≠ []
  first : ∀ c ∈ text.head?, isBlank c = false
  last : ∀ c ∈ text.getLast?, isBlank c = false
  quotes : ∀ before behind, text = before ++ '\'' :: behind →
    escapeAfter? false before = some true

theorem Definition.PatternText.quotable {text : List Char} (h : PatternText text) :
    Quotable text where
  ne_nil := h.ne_nil
  first := by
    intro c hc
    obtain ⟨rest, rfl⟩ := List.head?_eq_some_iff.mp hc
    exact not_blank_of_trimBlanks_eq_cons h.trimmed
  last := by
    intro c hc
    obtain ⟨init, d, rfl, hd⟩ := exists_last_of_trimBlanks_eq h.ne_nil h.trimmed
    rw [List.getLast?_concat] at hc
    rw [← Option.some.inj hc]
    exact hd
  quotes := by
    intro before behind heq
    have hopen := h.unquoted
    rw [heq, escapeAfter?_append] at hopen
    cases hbefore : escapeAfter? false before with
    | none =>
        rw [hbefore] at hopen
        exact absurd rfl hopen
    | some escaped =>
        rw [hbefore, Option.bind_some] at hopen
        -- A quote closes the group unless a backslash is open.
        rcases escaped_or_ne_quote hopen with rfl | hquote
        · rfl
        · exact absurd rfl hquote

namespace Filter

open Definition

/-! ## Parts -/

/-- A filter stands somewhere in another one, or is it. -/
inductive Occurs (x : Filter) : Filter → Prop
  | here : Occurs x x
  | all {xs : List Filter} {y : Filter} (hy : y ∈ xs) (h : Occurs x y) : Occurs x (.all xs)
  | any {xs : List Filter} {y : Filter} (hy : y ∈ xs) (h : Occurs x y) : Occurs x (.any xs)

theorem Occurs.trans {x y z : Filter} (h : Occurs x y) (h' : Occurs y z) : Occurs x z := by
  induction h' with
  | here => exact h
  | all hy _ ih => exact .all hy ih
  | any hy _ ih => exact .any hy ih

theorem occurs_acceptAll_iff {x : Filter} : Occurs x .acceptAll ↔ x = .acceptAll := by
  constructor
  · intro h
    cases h
    rfl
  · intro h
    exact h ▸ .here

theorem occurs_all_iff {x : Filter} {xs : List Filter} :
    Occurs x (.all xs) ↔ x = .all xs ∨ ∃ y ∈ xs, Occurs x y := by
  constructor
  · intro h
    cases h with
    | here => exact .inl rfl
    | all hy h => exact .inr ⟨_, hy, h⟩
  · intro h
    rcases h with rfl | ⟨y, hy, h⟩
    · exact .here
    · exact .all hy h

theorem occurs_any_iff {x : Filter} {xs : List Filter} :
    Occurs x (.any xs) ↔ x = .any xs ∨ ∃ y ∈ xs, Occurs x y := by
  constructor
  · intro h
    cases h with
    | here => exact .inl rfl
    | any hy h => exact .inr ⟨_, hy, h⟩
  · intro h
    rcases h with rfl | ⟨y, hy, h⟩
    · exact .here
    · exact .any hy h

theorem occurs_leaf_iff {x : Filter} {predicate : Predicate} {sign : Sign} {ps : List Pattern} :
    Occurs x (.leaf predicate sign ps) ↔ x = .leaf predicate sign ps := by
  constructor
  · intro h
    cases h
    rfl
  · intro h
    exact h ▸ .here

theorem occurs_folder_iff {x : Filter} : Occurs x .folder ↔ x = .folder := by
  constructor
  · intro h
    cases h
    rfl
  · intro h
    exact h ▸ .here

section

variable {options : ParseOptions} {t x : Filter}

theorem Shaped.of_occurs (ht : Shaped options t) (h : Occurs x t) : Shaped options x := by
  induction h with
  | here => exact ht
  | all hy _ ih =>
      cases ht with
      | all _ hshaped => exact ih (hshaped _ hy)
  | any hy _ ih =>
      cases ht with
      | any _ hshaped => exact ih (hshaped _ hy)

theorem Shaped.ne_acceptAll (ht : Shaped options t) : t ≠ .acceptAll := by
  rintro rfl
  cases ht

theorem Shaped.children_ne_nil {xs : List Filter}
    (h : Shaped options (.all xs) ∨ Shaped options (.any xs)) : xs ≠ [] := by
  rcases h with h | h
  · cases h with
    | all hne => exact hne
  · cases h with
    | any hne => exact hne

theorem Shaped.patterns {predicate : Predicate} {sign : Sign} {ps : List Pattern}
    (h : Shaped options (.leaf predicate sign ps)) :
    ps ≠ [] ∧ ∀ p ∈ ps, Quotable p.source.toList := by
  cases h with
  | field hne hps => exact ⟨hne, fun p hp => (hps p hp).1.quotable⟩
  | generic hp =>
      refine ⟨List.cons_ne_nil _ _, List.forall_mem_singleton.mpr ?_⟩
      rw [source_of_ofChars hp]
      exact (patternText_literalSource _).quotable

theorem Shaped.genericType {tag : String} {sign : Sign} {ps : List Pattern}
    (h : Shaped options (.leaf (.genericType tag) sign ps)) :
    ∃ p, ps = [p] ∧ Pattern.literal options.pattern tag.toList = .ok p ∧
      p.source.toList = Pattern.literalSource tag.toList ∧
      options.typeRules.Selects tag.toList .generic := by
  cases h with
  | generic hp htag =>
      refine ⟨_, rfl, hp, source_of_ofChars hp, TypeRules.selects_iff.mpr ?_⟩
      rw [TypeRules.resolve] at htag
      split at htag
      · cases htag
      · cases htag
      · assumption

theorem Shaped.one_le_leafCount (h : Shaped options t) : 1 ≤ t.leafCount := by
  have hchildren : ∀ {xs : List Filter}, xs ≠ [] → (∀ x ∈ xs, 1 ≤ x.leafCount) →
      1 ≤ leafCounts xs := by
    intro xs hne hxs
    obtain ⟨x, rest, rfl⟩ := List.exists_cons_of_ne_nil hne
    have hx := List.mem_cons_self (a := x) (l := rest)
    exact Nat.le_trans (hxs x hx) (leafCount_le_leafCounts hx)
  induction h with
  | folder | field | generic => exact Nat.le_refl 1
  | all hne _ ih | any hne _ ih => exact hchildren hne ih

end

/-! ## Levels -/

theorem depth_lowerType {options : ParseOptions} {sign : Sign} {literal : List Char}
    {leaf : Filter} (h : lowerType options sign literal = .ok leaf) : leaf.depth = 1 := by
  obtain ⟨p, -, rfl⟩ := lowerType_eq_ok_iff.mp h
  rfl

theorem depth_joinTypes_le {sign : Sign} {leaves : List Filter}
    (h : ∀ x ∈ leaves, x.depth = 1) : (joinTypes sign leaves).depth ≤ 2 := by
  rw [joinTypes.eq_def]
  split
  · rw [h _ (List.mem_singleton_self _)]
    decide
  · have hmax : maxDepth leaves ≤ 1 := maxDepth_le_iff.mpr fun x hx => Nat.le_of_eq (h x hx)
    cases sign <;> exact Nat.succ_le_succ hmax

theorem depth_lower_le {options : ParseOptions} {d : Definition} {t : Filter}
    (h : d.lower options = .ok t) : t.depth ≤ d.nesting + 2 := by
  -- Both levels are below the innermost combinator, so a combinator adds one
  -- to each side.
  have hchildren : ∀ {ds : List Definition} {xs : List Filter},
      (∀ d ∈ ds, ∀ {t : Filter}, d.lower options = .ok t → t.depth ≤ d.nesting + 2) →
      lowerAll options ds = .ok xs → maxDepth xs ≤ maxNesting ds + 2 := by
    intro ds xs ih hxs
    rw [maxDepth_le_iff]
    refine forall_of_forall₂ (lowerAll_eq_ok_iff.mp hxs) fun d hd x hx => ?_
    exact Nat.le_trans (ih d hd hx)
      (Nat.add_le_add_right (maxNesting_le_iff.mp (Nat.le_refl _) d hd) 2)
  induction d using Definition.induction generalizing t with
  | folder =>
      rw [lower] at h
      cases h
      decide
  | all ds ih =>
      rw [lower] at h
      obtain ⟨xs, hxs, rfl⟩ := map_eq_ok_iff.mp h
      rw [depth, nesting, Nat.add_right_comm]
      exact Nat.succ_le_succ (hchildren ih hxs)
  | any ds ih =>
      rw [lower] at h
      obtain ⟨xs, hxs, rfl⟩ := map_eq_ok_iff.mp h
      rw [depth, nesting, Nat.add_right_comm]
      exact Nat.succ_le_succ (hchildren ih hxs)
  | field f sign patterns =>
      rw [lower] at h
      obtain ⟨ps, -, rfl⟩ := map_eq_ok_iff.mp h
      exact Nat.le_succ 1
  | type sign literals =>
      rw [lower] at h
      obtain ⟨leaves, hleaves, rfl⟩ := map_eq_ok_iff.mp h
      exact depth_joinTypes_le
        (forall_of_forall₂ (lowerTypes_eq_ok_iff.mp hleaves) fun _ _ _ => depth_lowerType)

/-! ## What is compiled -/

theorem not_allBlank_of_spelledBy {d : Definition} {source : List Char}
    (h : SpelledBy d source) : ¬ AllBlank source := by
  intro hblank
  have hread := read_eq_some_iff.mpr ⟨h, Nat.le_refl d.nesting⟩
  rw [read_eq_none_iff.mpr hblank] at hread
  cases hread

/-- What the readers of a compiled filter rely on. Only a blank text accepts
everything, combinators have children and tests have patterns, the texts of
patterns can be quoted, and a test for a type of no kind has the one pattern
for its name. -/
theorem parse_shape {options : ParseOptions} {source : String} {t : Filter}
    (h : parse options source = .ok t) :
    (Occurs .acceptAll t ↔ AllBlank source.toList) ∧
      (AllBlank source.toList → t = .acceptAll) ∧
      (∀ xs, Occurs (.all xs) t ∨ Occurs (.any xs) t → xs ≠ []) ∧
      (∀ predicate sign ps, Occurs (.leaf predicate sign ps) t →
        ps ≠ [] ∧ ∀ p ∈ ps, Quotable p.source.toList) ∧
      (∀ tag sign ps, Occurs (.leaf (.genericType tag) sign ps) t →
        ∃ p, ps = [p] ∧ Pattern.literal options.pattern tag.toList = .ok p ∧
          p.source.toList = Pattern.literalSource tag.toList ∧
          options.typeRules.Selects tag.toList .generic) ∧
      (¬ AllBlank source.toList → 1 ≤ t.leafCount) ∧
      t.depth ≤ options.maxDepth.toNat + 2 := by
  rw [parse, ofChars_eq_ok_iff] at h
  rcases h with ⟨hblank, rfl⟩ | ⟨d, hspelled, hnesting, hlower⟩
  · simp only [occurs_acceptAll_iff, reduceCtorEq, or_self, false_implies, implies_true, true_and]
    exact ⟨⟨fun _ => hblank, fun _ => trivial⟩, fun hne => absurd hblank hne,
      Nat.le_add_left 1 (options.maxDepth.toNat + 1)⟩
  · have hblank := not_allBlank_of_spelledBy hspelled
    have hshaped : Shaped options t := shaped_of_lower hspelled.regular hlower
    refine ⟨⟨fun hocc => ?_, fun hall => absurd hall hblank⟩, fun hall => absurd hall hblank,
      fun xs hocc => ?_, fun _ _ _ hocc => (hshaped.of_occurs hocc).patterns,
      fun _ _ _ hocc => (hshaped.of_occurs hocc).genericType,
      fun _ => hshaped.one_le_leafCount, ?_⟩
    · exact absurd rfl (hshaped.of_occurs hocc).ne_acceptAll
    · exact Shaped.children_ne_nil (hocc.imp hshaped.of_occurs hshaped.of_occurs)
    · exact Nat.le_trans (depth_lower_le hlower) (Nat.add_le_add_right hnesting 2)

/-- Both levels can be needed. -/
theorem parse_shape_of_deepest :
    ∃ t, parse ⟨.default, .default, 1⟩ "and\x7bType(-'a\\'','mix:b'),Folder()\x7d" = .ok t ∧
      t.depth = 3 ∧ t.leafCount = 3 ∧ ¬ Occurs .acceptAll t ∧
      t.depth ≤ (1 : UInt64).toNat + 2 := by
  have hparse : (parse ⟨.default, .default, 1⟩ "and\x7bType(-'a\\'','mix:b'),Folder()\x7d").map
      (fun t => (t.depth, t.leafCount)) = .ok (3, 3) := by
    decide +kernel
  obtain ⟨t, ht, hcounts⟩ := map_eq_ok_iff.mp hparse
  obtain ⟨hdepth, hleaves⟩ := Prod.mk.inj hcounts
  obtain ⟨hall, -, -, -, -, -, hlimit⟩ := parse_shape ht
  refine ⟨t, ht, hdepth, hleaves, ?_, hlimit⟩
  rw [hall]
  intro hblank
  exact absurd (hblank 'a' (by decide)) (by decide)

end Filter

end NodeSieve
