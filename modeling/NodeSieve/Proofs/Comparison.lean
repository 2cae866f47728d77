import NodeSieve.Proofs.Meaning
import NodeSieve.Proofs.Occurrence

/-!
# Two resources under one filter

What can change a verdict from one resource to another? A test looks at the
texts of a field and asks whether one of them is matched. With `+` it can only
gain by more texts, with `-` it can only lose, and combinators are monotone.
So a filter passes from one resource to another if each of its tests with `+`
finds the texts again that it had, and each with `-` finds no text that it had
not (`Carries`).

Both main statements are this lemma read twice. Resources that agree where the
filter looks have the same texts there, in whatever order, and so the same
verdict. A resource that extends another has its texts and perhaps more, which
a filter with `+` throughout does not mind; a filter with `-` throughout takes
the other direction. An absent field needs no case of its own, since it is a
field without texts.
-/

namespace NodeSieve

variable {r r' : Resource}

namespace Filter

theorem anyMatch_of_subset {predicate : Predicate} {ps : List Pattern}
    (h : predicate.subjects r ⊆ predicate.subjects r') (hmatch : anyMatch predicate ps r = true) :
    anyMatch predicate ps r' = true := by
  obtain ⟨p, hp, text, htext, hmatch⟩ := anyMatch_iff.mp hmatch
  exact anyMatch_iff.mpr ⟨p, hp, text, h htext, hmatch⟩

/-- A test keeps its verdict when the texts change in the direction of its
sign. -/
theorem accepts_leaf_of_subset {predicate : Predicate} {sign : Sign} {ps : List Pattern}
    (hinclude : sign = .include → predicate.subjects r ⊆ predicate.subjects r')
    (hexclude : sign = .exclude → predicate.subjects r' ⊆ predicate.subjects r)
    (h : accepts r (.leaf predicate sign ps) = true) :
    accepts r' (.leaf predicate sign ps) = true := by
  rw [accepts] at h ⊢
  cases sign
  · exact anyMatch_of_subset (hinclude rfl) h
  · rw [Sign.apply, Bool.not_eq_true', ← Bool.not_eq_true] at h ⊢
    exact fun hmatch => h (anyMatch_of_subset (hexclude rfl) hmatch)

/-- From one resource to another, the tests of a filter with `+` lose no text,
those with `-` gain none, and `Folder()` goes on to hold. -/
structure Carries (r r' : Resource) (t : Filter) : Prop where
  plus : ∀ predicate ps, Occurs (.leaf predicate .include ps) t →
    predicate.subjects r ⊆ predicate.subjects r'
  minus : ∀ predicate ps, Occurs (.leaf predicate .exclude ps) t →
    predicate.subjects r' ⊆ predicate.subjects r
  folder : Occurs .folder t → r.isFolder = true → r'.isFolder = true

theorem Carries.of_occurs {t x : Filter} (h : t.Carries r r') (hocc : Occurs x t) :
    x.Carries r r' where
  plus predicate ps hleaf := h.plus predicate ps (hleaf.trans hocc)
  minus predicate ps hleaf := h.minus predicate ps (hleaf.trans hocc)
  folder hleaf := h.folder (hleaf.trans hocc)

theorem Carries.accepts {t : Filter} (h : t.Carries r r') (haccepts : t.accepts r = true) :
    t.accepts r' = true := by
  induction t using Filter.induction with
  | acceptAll => rw [Filter.accepts]
  | all xs ih =>
      rw [accepts_all_iff] at haccepts ⊢
      exact fun x hx => ih x hx (h.of_occurs (.all hx .here)) (haccepts x hx)
  | any xs ih =>
      rw [accepts_any_iff] at haccepts ⊢
      obtain ⟨x, hx, haccepts⟩ := haccepts
      exact ⟨x, hx, ih x hx (h.of_occurs (.any hx .here)) haccepts⟩
  | leaf predicate sign ps =>
      refine accepts_leaf_of_subset (fun hsign => ?_) (fun hsign => ?_) haccepts
      · exact h.plus predicate ps (hsign ▸ .here)
      · exact h.minus predicate ps (hsign ▸ .here)
  | folder => exact h.folder .here haccepts

end Filter

/-! ## Where a filter looks -/

/-- Where a predicate looks. A type of no kind is looked for in two places. -/
def Predicate.LooksAt : Predicate → Field → Prop
  | .field f, g => g = f
  | .genericType _, g => g = .primaryType ∨ g = .mixinType

theorem Predicate.mem_subjects_iff {predicate : Predicate} {text : String} :
    text ∈ predicate.subjects r ↔ ∃ f, predicate.LooksAt f ∧ text ∈ f.subjects r := by
  cases predicate with
  | field f =>
      simp only [LooksAt, exists_eq_left]
      exact Iff.rfl
  | genericType tag =>
      simp only [LooksAt, or_and_right, exists_or, exists_eq_left]
      exact List.mem_append (s := [r.primaryType])

theorem Predicate.subjects_subset {predicate : Predicate}
    (h : ∀ f, predicate.LooksAt f → f.subjects r ⊆ f.subjects r') :
    predicate.subjects r ⊆ predicate.subjects r' := by
  intro text htext
  obtain ⟨f, hf, htext⟩ := Predicate.mem_subjects_iff.mp htext
  exact Predicate.mem_subjects_iff.mpr ⟨f, hf, h f hf htext⟩

/-- Some part of a filter looks at a field. -/
def Filter.Inspects (t : Filter) (f : Field) : Prop :=
  ∃ predicate sign ps, Occurs (.leaf predicate sign ps) t ∧ predicate.LooksAt f

/-! ## Resources that agree -/

/-- Two resources have the same in a field. Of mixin types it only counts
which there are. -/
def Field.Agree (r r' : Resource) : Field → Prop
  | .name => r.name = r'.name
  | .path => r.path = r'.path
  | .primaryType => r.primaryType = r'.primaryType
  | .resourceType => r.resourceType = r'.resourceType
  | .mimeType => r.mimeType = r'.mimeType
  | .mixinType => ∀ text, text ∈ r.mixinTypes ↔ text ∈ r'.mixinTypes

/-- Two resources have the same wherever some part of a filter looks. -/
structure Filter.Agree (r r' : Resource) (t : Filter) : Prop where
  field : ∀ f, t.Inspects f → f.Agree r r'
  folder : Occurs .folder t → r.isFolder = r'.isFolder

theorem Field.Agree.symm {f : Field} (h : f.Agree r r') : f.Agree r' r := by
  cases f with
  | mixinType => exact fun text => (h text).symm
  | name | path | primaryType | resourceType | mimeType => exact Eq.symm h

theorem Field.Agree.subset {f : Field} (h : f.Agree r r') : f.subjects r ⊆ f.subjects r' := by
  intro text htext
  rw [Field.mem_subjects_iff] at htext ⊢
  cases f with
  | mixinType => exact (h text).mp htext
  | name | path | primaryType => exact Eq.trans htext h
  | resourceType | mimeType => exact Eq.trans (Eq.symm h) htext

namespace Filter

theorem Agree.symm {t : Filter} (h : t.Agree r r') : t.Agree r' r :=
  ⟨fun f hf => (h.field f hf).symm, fun hocc => (h.folder hocc).symm⟩

theorem Agree.subset {t : Filter} (h : t.Agree r r') {predicate : Predicate} {sign : Sign}
    {ps : List Pattern} (hocc : Occurs (.leaf predicate sign ps) t) :
    predicate.subjects r ⊆ predicate.subjects r' :=
  Predicate.subjects_subset fun f hf => (h.field f ⟨predicate, sign, ps, hocc, hf⟩).subset

theorem Agree.carries {t : Filter} (h : t.Agree r r') : t.Carries r r' where
  plus _ _ hocc := h.subset hocc
  minus _ _ hocc := h.symm.subset hocc
  folder hocc hr := (h.folder hocc).symm.trans hr

end Filter

theorem Resource.withMixinType_eq (r : Resource) (mixinType : String) :
    r.withMixinType mixinType =
      { r with mixinTypes := (r.withMixinType mixinType).mixinTypes } := by
  rw [withMixinType]
  split <;> rfl

/-- Adding mixin types changes nothing else. -/
theorem Resource.withMixinTypes_eq (r : Resource) (mixinTypes : List String) :
    r.withMixinTypes mixinTypes =
      { r with mixinTypes := (r.withMixinTypes mixinTypes).mixinTypes } := by
  rw [withMixinTypes]
  induction mixinTypes generalizing r with
  | nil => rfl
  | cons first rest ih => rw [List.foldl_cons, ih, withMixinType_eq]

theorem Filter.agree_withMixinTypes (t : Filter) (r : Resource) {xs ys : List String}
    (h : ∀ text, text ∈ xs ↔ text ∈ ys) :
    t.Agree (r.withMixinTypes xs) (r.withMixinTypes ys) := by
  constructor
  case folder =>
      rw [r.withMixinTypes_eq xs, r.withMixinTypes_eq ys]
      exact fun _ => rfl
  case field =>
      intro f _
      cases f with
      | mixinType =>
          intro text
          rw [Resource.mem_mixinTypes_withMixinTypes, Resource.mem_mixinTypes_withMixinTypes, h]
      | name | path | primaryType | resourceType | mimeType =>
          rw [r.withMixinTypes_eq xs, r.withMixinTypes_eq ys]
          rfl

/-- A verdict depends on what a filter looks at and on nothing else: resources
that agree there are accepted or rejected alike, and the order in which mixin
types were added, or how often, makes no difference. -/
theorem Filter.accepts_eq_of_agree (t : Filter) :
    (∀ r r', t.Agree r r' → t.accepts r = t.accepts r') ∧
      ∀ (r : Resource) (xs ys : List String), (∀ text, text ∈ xs ↔ text ∈ ys) →
        t.accepts (r.withMixinTypes xs) = t.accepts (r.withMixinTypes ys) := by
  have hagree : ∀ r r', t.Agree r r' → t.accepts r = t.accepts r' :=
    fun r r' h => Bool.eq_iff_iff.mpr ⟨h.carries.accepts, h.symm.carries.accepts⟩
  exact ⟨hagree, fun r xs ys h => hagree _ _ (t.agree_withMixinTypes r h)⟩

/-- Two resources with nothing in common but a primary type and two mixin
types, which came in another order and one of them twice. -/
theorem Filter.accepts_eq_of_agree_of_order :
    let r := ((Resource.ofPath "/x").withPrimaryType "t").withMixinTypes ["b", "a"]
    let r' := ((((Resource.ofPath "/y/z").withPrimaryType "t").withMixinTypes
      ["a", "b", "a"]).withMimeType "m").withFolder true
    let t (p : Pattern) := Filter.all [.leaf (.genericType "b") .include [p],
      .any [.leaf (.field .mixinType) .exclude [p], .leaf (.field .primaryType) .exclude [p]]]
    ∃ p, Pattern.compile .default "^b$" = .ok p ∧ (t p).Agree r r' ∧
      (t p).accepts r = true ∧ (t p).accepts r' = true := by
  intro r r' t
  have hverdict : (Pattern.compile .default "^b$").map (fun p => (t p).accepts r) =
      .ok true := by
    decide +kernel
  obtain ⟨p, hp, haccepts⟩ := map_eq_ok_iff.mp hverdict
  have hlooks : ∀ f, (t p).Inspects f → f = .primaryType ∨ f = .mixinType := by
    intro f hf
    obtain ⟨predicate, sign, ps, hocc, hf⟩ := hf
    simp only [t, occurs_all_iff, occurs_any_iff, occurs_leaf_iff, List.mem_cons,
      List.not_mem_nil, or_false, exists_eq_or_imp, exists_eq_left, Filter.leaf.injEq,
      reduceCtorEq, false_or] at hocc
    rcases hocc with ⟨rfl, -⟩ | ⟨rfl, -⟩ | ⟨rfl, -⟩
    · exact hf
    · exact .inr hf
    · exact .inl hf
  have hagree : (t p).Agree r r' := by
    constructor
    case folder => simp [t, occurs_all_iff, occurs_any_iff, occurs_leaf_iff]
    case field =>
        intro f hf
        rcases hlooks f hf with rfl | rfl
        · rfl
        · have hr : r.mixinTypes = ["b", "a"] := by decide
          have hr' : r'.mixinTypes = ["a", "b"] := by decide
          intro text
          rw [hr, hr', List.mem_pair, List.mem_pair, or_comm]
  exact ⟨p, hp, hagree, haccepts, (accepts_eq_of_agree (t p)).1 r r' hagree ▸ haccepts⟩

/-! ## Resources that extend others -/

/-- A resource has all that another has. It may have more mixin types, a field
that the other does not have, and be a folder where the other is none. -/
structure Resource.Extends (r' r : Resource) : Prop where
  path : r'.path = r.path
  name : r'.name = r.name
  primaryType : r'.primaryType = r.primaryType
  mixinTypes : r.mixinTypes ⊆ r'.mixinTypes
  resourceType : r'.resourceType = r.resourceType ∨ r.resourceType = none
  mimeType : r'.mimeType = r.mimeType ∨ r.mimeType = none
  folder : r.isFolder = true → r'.isFolder = true

theorem Resource.Extends.subset (h : r'.Extends r) (f : Field) :
    f.subjects r ⊆ f.subjects r' := by
  have hone : ∀ {text text' : String}, text' = text → [text] ⊆ [text'] := by
    rintro text _ rfl
    exact List.Subset.refl _
  have hoptional : ∀ {o o' : Option String}, o' = o ∨ o = none → o.toList ⊆ o'.toList := by
    rintro o o' (rfl | rfl)
    · exact List.Subset.refl _
    · exact List.nil_subset _
  cases f with
  | name => exact hone h.name
  | path => exact hone h.path
  | primaryType => exact hone h.primaryType
  | resourceType => exact hoptional h.resourceType
  | mimeType => exact hoptional h.mimeType
  | mixinType => exact h.mixinTypes

namespace Resource

theorem Extends.trans {r'' : Resource} (h' : r''.Extends r') (h : r'.Extends r) :
    r''.Extends r := by
  have hoptional : ∀ {o o' o'' : Option String}, o'' = o' ∨ o' = none → o' = o ∨ o = none →
      o'' = o ∨ o = none := by
    rintro o o' o'' h' (rfl | rfl)
    · exact h'
    · exact .inr rfl
  exact ⟨h'.path.trans h.path, h'.name.trans h.name, h'.primaryType.trans h.primaryType,
    List.Subset.trans h.mixinTypes h'.mixinTypes, hoptional h'.resourceType h.resourceType,
    hoptional h'.mimeType h.mimeType, fun hr => h'.folder (h.folder hr)⟩

/-! What is added to a resource extends it, where nothing stood before. -/

theorem extends_withMixinTypes (r : Resource) (mixinTypes : List String) :
    (r.withMixinTypes mixinTypes).Extends r := by
  have hmixin : r.mixinTypes ⊆ (r.withMixinTypes mixinTypes).mixinTypes :=
    fun _ htext => mem_mixinTypes_withMixinTypes.mpr (.inl htext)
  rw [withMixinTypes_eq]
  exact ⟨rfl, rfl, rfl, hmixin, .inl rfl, .inl rfl, id⟩

theorem extends_withResourceType (h : r.resourceType = none) (resourceType : String) :
    (r.withResourceType resourceType).Extends r :=
  ⟨rfl, rfl, rfl, List.Subset.refl _, .inr h, .inl rfl, id⟩

theorem extends_withMimeType (h : r.mimeType = none) (mimeType : String) :
    (r.withMimeType mimeType).Extends r :=
  ⟨rfl, rfl, rfl, List.Subset.refl _, .inl rfl, .inr h, id⟩

theorem extends_withFolder (r : Resource) : (r.withFolder true).Extends r :=
  ⟨rfl, rfl, rfl, List.Subset.refl _, .inl rfl, .inl rfl, fun _ => rfl⟩

end Resource

namespace Filter

/-- Every test of a filter has the sign. -/
def AllSigned (sign : Sign) (t : Filter) : Prop :=
  ∀ predicate sign' ps, Occurs (.leaf predicate sign' ps) t → sign' = sign

theorem carries_of_include {t : Filter} (h : r'.Extends r) (hsigned : t.AllSigned .include) :
    t.Carries r r' where
  plus _ _ _ := Predicate.subjects_subset fun f _ => h.subset f
  minus predicate ps hocc := by cases hsigned predicate .exclude ps hocc
  folder _ := h.folder

theorem carries_of_exclude {t : Filter} (h : r'.Extends r) (hsigned : t.AllSigned .exclude)
    (hfolder : ¬ Occurs .folder t) : t.Carries r' r where
  plus predicate ps hocc := by cases hsigned predicate .include ps hocc
  minus _ _ _ := Predicate.subjects_subset fun f _ => h.subset f
  folder hocc := absurd hocc hfolder

/-- A filter with `+` throughout that accepts a resource accepts all that
extend it. One with `-` throughout and without `Folder()` that accepts a
resource accepts all that it extends. -/
theorem accepts_of_extends {t : Filter} (h : r'.Extends r) :
    (t.AllSigned .include → t.accepts r = true → t.accepts r' = true) ∧
      (t.AllSigned .exclude → ¬ Occurs .folder t → t.accepts r' = true →
        t.accepts r = true) :=
  ⟨fun hsigned => (carries_of_include h hsigned).accepts,
    fun hsigned hfolder => (carries_of_exclude h hsigned hfolder).accepts⟩

/-- A resource that gains all that it can gain, under a filter of either
kind. -/
theorem accepts_of_extends_of_growth :
    let r := (Resource.ofPath "/x").withPrimaryType "a"
    let r' := (((r.withMixinTypes ["b", "c"]).withResourceType "d").withMimeType "a").withFolder
      true
    let plus (p : Pattern) := Filter.all [.leaf (.genericType "a") .include [p],
      .any [.folder, .leaf (.field .primaryType) .include [p]]]
    let minus (p : Pattern) := Filter.any [.leaf (.field .mimeType) .exclude [p],
      .all [.leaf (.field .mixinType) .exclude [p]]]
    ∃ p, Pattern.compile .default "^a$" = .ok p ∧ r'.Extends r ∧
      ((plus p).AllSigned .include ∧ (plus p).accepts r = true ∧ (plus p).accepts r' = true) ∧
      (minus p).AllSigned .exclude ∧ ¬ Occurs .folder (minus p) ∧
        (minus p).accepts r' = true ∧ (minus p).accepts r = true := by
  intro r r' plus minus
  have hverdicts : (Pattern.compile .default "^a$").map (fun p =>
      ((plus p).accepts r, (minus p).accepts r')) = .ok (true, true) := by
    decide +kernel
  obtain ⟨p, hp, hverdicts⟩ := map_eq_ok_iff.mp hverdicts
  obtain ⟨hplus, hminus⟩ := Prod.mk.inj hverdicts
  have hextends : r'.Extends r :=
    (Resource.extends_withFolder _).trans <| (Resource.extends_withMimeType rfl "a").trans <|
      (Resource.extends_withResourceType rfl "d").trans <| r.extends_withMixinTypes ["b", "c"]
  have hinclude : (plus p).AllSigned .include := by
    intro predicate sign ps hocc
    simp [plus, occurs_all_iff, occurs_any_iff, occurs_leaf_iff, occurs_folder_iff] at hocc
    tauto
  have hexclude : (minus p).AllSigned .exclude := by
    intro predicate sign ps hocc
    simp [minus, occurs_all_iff, occurs_any_iff, occurs_leaf_iff] at hocc
    tauto
  have hfolder : ¬ Occurs .folder (minus p) := by
    simp [minus, occurs_all_iff, occurs_any_iff, occurs_leaf_iff]
  exact ⟨p, hp, hextends, ⟨hinclude, hplus, (accepts_of_extends hextends).1 hinclude hplus⟩,
    hexclude, hfolder, hminus, (accepts_of_extends hextends).2 hexclude hfolder hminus⟩

end Filter

end NodeSieve
