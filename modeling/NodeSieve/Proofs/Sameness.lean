import NodeSieve.Proofs.Canonical
import NodeSieve.Proofs.Occurrence

/-!
# Filters that are the same

Filters are compared by the texts of their patterns. What the options made of
a text is not looked at, so two filters can be the same although they came
from different definitions, under other rules for types, another limit on
nesting and another limit on size.

None of that has a say in what a filter accepts. The rules and the limit on
nesting have done their work once the filter is there, and the limit on size
decides whether a text is a pattern, not which one it is
(`Regex.compile_unique`). What remains is whether case counts: a text and the
answer to that settle a pattern (`Spelled`). So where the answer is the same,
filters that are found to be the same are one and the same tree
(`eq_of_same`), and where it is not, nothing follows.
-/

namespace NodeSieve

/-- A pattern is what its text spells, with case ignored or not. -/
def Pattern.Spelled (ignoreCase : Bool) (p : Pattern) : Prop :=
  ∃ sizeLimit, Regex.compile ignoreCase sizeLimit p.source.toList = .ok p.term

theorem Pattern.spelled_of_ofChars {options : PatternOptions} {source : List Char} {p : Pattern}
    (h : Pattern.ofChars options source = .ok p) : p.Spelled options.caseInsensitive := by
  have hsource := Definition.source_of_ofChars h
  rw [Pattern.ofChars] at h
  obtain ⟨term, hterm, rfl⟩ := map_eq_ok_iff.mp h
  exact ⟨_, hsource ▸ hterm⟩

theorem Pattern.Spelled.eq {ignoreCase : Bool} {p q : Pattern} (hp : p.Spelled ignoreCase)
    (hq : q.Spelled ignoreCase) (h : p.source.toList = q.source.toList) : p = q := by
  obtain ⟨_, hp⟩ := hp
  obtain ⟨_, hq⟩ := hq
  rw [← h] at hq
  have hterm := Regex.compile_unique hp hq
  have hsource := String.toList_inj.mp h
  cases p
  cases q
  exact congr (congrArg Pattern.mk hsource) hterm

namespace Filter

/-- Every pattern of a filter is what its text spells. -/
def Spelled (ignoreCase : Bool) (t : Filter) : Prop :=
  ∀ predicate sign ps, Occurs (.leaf predicate sign ps) t → ∀ p ∈ ps, p.Spelled ignoreCase

theorem Spelled.of_occurs {ignoreCase : Bool} {t x : Filter} (h : t.Spelled ignoreCase)
    (hocc : Occurs x t) : x.Spelled ignoreCase :=
  fun predicate sign ps hleaf => h predicate sign ps (hleaf.trans hocc)

theorem Shaped.spelled {options : ParseOptions} {t : Filter} (h : Shaped options t) :
    t.Spelled options.pattern.caseInsensitive := by
  intro predicate sign ps hocc
  cases h.of_occurs hocc with
  | field _ hps => exact fun p hp => Pattern.spelled_of_ofChars (hps p hp).2
  | generic hp => exact List.forall_mem_singleton.mpr (Pattern.spelled_of_ofChars hp)

theorem spelled_of_parse {options : ParseOptions} {source : String} {t : Filter}
    (h : parse options source = .ok t) : t.Spelled options.pattern.caseInsensitive := by
  rcases shaped_of_ofChars h with rfl | hshaped
  · intro predicate sign ps hocc
    cases occurs_acceptAll_iff.mp hocc
  · exact hshaped.spelled

/-! ## What the comparison finds -/

section

variable {t u : Filter} {xs : List Filter}

theorem sameAll_iff {ys : List Filter} :
    sameAll xs ys = true ↔ List.Forall₂ (fun x y => same x y = true) xs ys := by
  induction xs generalizing ys with
  | nil => cases ys <;> simp [sameAll]
  | cons x xs ih =>
      cases ys with
      | nil => simp [sameAll]
      | cons y ys => rw [sameAll, Bool.and_eq_true, ih, List.forall₂_cons]

theorem exists_of_same_all (h : same (.all xs) u = true) :
    ∃ ys, u = .all ys ∧ List.Forall₂ (fun x y => same x y = true) xs ys := by
  cases u with
  | all ys => exact ⟨ys, rfl, sameAll_iff.mp h⟩
  | acceptAll | any | leaf | folder => cases h

theorem exists_of_same_any (h : same (.any xs) u = true) :
    ∃ ys, u = .any ys ∧ List.Forall₂ (fun x y => same x y = true) xs ys := by
  cases u with
  | any ys => exact ⟨ys, rfl, sameAll_iff.mp h⟩
  | acceptAll | all | leaf | folder => cases h

theorem exists_of_same_leaf {predicate : Predicate} {sign : Sign} {ps : List Pattern}
    (h : same (.leaf predicate sign ps) u = true) :
    ∃ qs, u = .leaf predicate sign qs ∧ sources ps = sources qs := by
  cases u with
  | leaf predicate' sign' qs =>
      rw [same, Bool.and_eq_true, Bool.and_eq_true, beq_iff_eq, beq_iff_eq,
        beq_iff_sources_eq] at h
      obtain ⟨⟨rfl, rfl⟩, hsources⟩ := h
      exact ⟨qs, rfl, hsources⟩
  | acceptAll | all | any | folder => cases h

end

theorem patterns_eq_of_sources {ignoreCase : Bool} {ps qs : List Pattern}
    (hps : ∀ p ∈ ps, p.Spelled ignoreCase) (hqs : ∀ q ∈ qs, q.Spelled ignoreCase)
    (h : sources ps = sources qs) : ps = qs := by
  induction ps generalizing qs with
  | nil => exact (List.map_eq_nil_iff.mp h.symm).symm
  | cons p ps ih =>
      obtain ⟨q, qs, rfl, hsource, hrest⟩ := List.map_eq_cons_iff.mp h.symm
      obtain ⟨hp, hps⟩ := List.forall_mem_cons.mp hps
      obtain ⟨hq, hqs⟩ := List.forall_mem_cons.mp hqs
      rw [hp.eq hq hsource.symm, ih hps hqs hrest.symm]

/-- Filters that are found to be the same are the same tree, down to what each
pattern means. -/
theorem eq_of_same {ignoreCase : Bool} {t u : Filter} (ht : t.Spelled ignoreCase)
    (hu : u.Spelled ignoreCase) (h : t.same u = true) : t = u := by
  induction t using Filter.induction generalizing u with
  | acceptAll =>
      cases u with
      | acceptAll => rfl
      | all | any | leaf | folder => cases h
  | all xs ih =>
      obtain ⟨ys, rfl, hsame⟩ := exists_of_same_all h
      refine congrArg _ (eq_of_forall₂ hsame fun x hx y hy => ?_)
      exact ih x hx (ht.of_occurs (.all hx .here)) (hu.of_occurs (.all hy .here))
  | any xs ih =>
      obtain ⟨ys, rfl, hsame⟩ := exists_of_same_any h
      refine congrArg _ (eq_of_forall₂ hsame fun x hx y hy => ?_)
      exact ih x hx (ht.of_occurs (.any hx .here)) (hu.of_occurs (.any hy .here))
  | leaf predicate sign ps =>
      obtain ⟨qs, rfl, hsources⟩ := exists_of_same_leaf h
      rw [patterns_eq_of_sources (ht _ _ _ .here) (hu _ _ _ .here) hsources]
  | folder =>
      cases u with
      | folder => rfl
      | acceptAll | all | any | leaf => cases h

end Filter

namespace CompiledFilter

/-- Two definitions that are compiled to the same filter, each under its own
options but with case treated alike, accept the same resources. -/
theorem accepts_eq_of_same_root {options options' : ParseOptions} {source source' : String}
    {c c' : CompiledFilter}
    (hcase : options.pattern.caseInsensitive = options'.pattern.caseInsensitive)
    (hc : compile options source = .ok c) (hc' : compile options' source' = .ok c')
    (hsame : (c.root == c'.root) = true) :
    c.root = c'.root ∧ ∀ r, c.accepts r = c'.accepts r := by
  obtain ⟨-, hroot⟩ := compile_eq_ok_iff.mp hc
  obtain ⟨-, hroot'⟩ := compile_eq_ok_iff.mp hc'
  have hspelled := Filter.spelled_of_parse hroot
  rw [hcase] at hspelled
  have heq := Filter.eq_of_same hspelled (Filter.spelled_of_parse hroot') hsame
  refine ⟨heq, fun r => ?_⟩
  rw [accepts, accepts, heq]

/-- A type that a rule sends to one field, and the test of that field written
out, under other rules and limits. -/
theorem accepts_eq_of_same_root_of_rules :
    let strict : ParseOptions := ⟨⟨false, 5000⟩, ⟨[]⟩, 1⟩
    ∃ c c', compile .default "Type(-mix:a,'nt:b')" = .ok c ∧
      compile strict "and\x7bMixinType(-'^mix:a$'), Type(-'nt:b')\x7d" = .ok c' ∧
      (c.root == c'.root) = true ∧ ∀ r, c.accepts r = c'.accepts r := by
  intro strict
  have hsame : ((compile .default "Type(-mix:a,'nt:b')").bind fun c =>
      (compile strict "and\x7bMixinType(-'^mix:a$'), Type(-'nt:b')\x7d").map fun c' =>
        c.root == c'.root) = .ok true := by
    decide +kernel
  obtain ⟨c, hc, hsame⟩ := bind_eq_ok_iff.mp hsame
  obtain ⟨c', hc', hsame⟩ := map_eq_ok_iff.mp hsame
  have hcase : ParseOptions.default.pattern.caseInsensitive = strict.pattern.caseInsensitive := rfl
  exact ⟨c, c', hc, hc', hsame, (accepts_eq_of_same_root hcase hc hc' hsame).2⟩

/-- Where case is treated otherwise, the comparison does not see it. -/
example :
    let file := (Resource.ofPath "/x").withName "A"
    ((compile ⟨⟨true, 1048576⟩, .default, 64⟩ "Name('(?-u)a')").bind fun c =>
      (compile .default "Name('(?-u)a')").map fun c' =>
        (c.root == c'.root, c.accepts file, c'.accepts file)) = .ok (true, true, false) := by
  decide +kernel

end CompiledFilter

end NodeSieve
