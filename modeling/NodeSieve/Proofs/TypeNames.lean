import NodeSieve.Proofs.Occurrence
import NodeSieve.Proofs.Trimming

/-!
# Types without a name

The reader refuses empty texts, and it looks at them as they are written. A
type's name comes later, when the escapes of the text are resolved, and one
text that is not empty has nothing left then: a backslash that protects
nothing. It can be written as a bare name, or as a group in which the
backslash protects a blank that is cut off.

What it takes to say that there is no other way is a correspondence between
the tests for types of a definition and the leaves of its filter, in both
directions: each literal has its leaf (`exists_leaf_of_literal`), and a leaf
for a type of no kind comes from a literal (`exists_literal_of_leaf`).
-/

namespace NodeSieve

open NodeSieve.Unicode

namespace Definition

theorem unescape_eq_nil_iff {literal : List Char} :
    unescape literal = [] ↔ literal = [] ∨ literal = ['\\'] := by
  constructor
  · intro h
    rw [unescape_eq_unescapeEach, unescapeEach.eq_def] at h
    split at h
    · exact .inl rfl
    · exact .inr rfl
    · cases h
    · cases h
  · intro h
    rcases h with rfl | rfl <;> rfl

theorem literalSource_eq_iff {text : List Char} :
    Pattern.literalSource text = ['^', '$'] ↔ text = [] := by
  constructor
  · intro h
    have hescaped : text.flatMap Pattern.escapeChar = [] :=
      List.append_cancel_right (List.cons.inj h).2
    rw [← escapeChar_protects.unescape text, hescaped]
    rfl
  · intro h
    rw [h]
    rfl

section

variable {options : ParseOptions} {d x : Definition} {t : Filter} {sign : Sign}
  {literals : List (List Char)}

/-! ## From definitions to filters -/

/-- What a part is lowered to is a part of what the whole is lowered to. -/
theorem PartOf.exists_occurs (h : PartOf x d) (hlower : d.lower options = .ok t) :
    ∃ y, x.lower options = .ok y ∧ Filter.Occurs y t := by
  induction h generalizing t with
  | here => exact ⟨t, hlower, .here⟩
  | all hy _ ih =>
      rw [lower] at hlower
      obtain ⟨xs, hxs, rfl⟩ := map_eq_ok_iff.mp hlower
      obtain ⟨child, hmem, hchild⟩ := exists_lowered hxs hy
      obtain ⟨y, hy, hocc⟩ := ih hchild
      exact ⟨y, hy, .all hmem hocc⟩
  | any hy _ ih =>
      rw [lower] at hlower
      obtain ⟨xs, hxs, rfl⟩ := map_eq_ok_iff.mp hlower
      obtain ⟨child, hmem, hchild⟩ := exists_lowered hxs hy
      obtain ⟨y, hy, hocc⟩ := ih hchild
      exact ⟨y, hy, .any hmem hocc⟩

theorem isLeaf_of_lowerTypes {leaves : List Filter}
    (h : List.Forall₂ (fun literal leaf => lowerType options sign literal = .ok leaf)
      literals leaves) : ∀ x ∈ leaves, ∃ predicate sign ps, x = .leaf predicate sign ps := by
  refine forall_of_forall₂ h fun literal _ leaf hleaf => ?_
  obtain ⟨p, -, rfl⟩ := lowerType_eq_ok_iff.mp hleaf
  exact ⟨_, _, _, rfl⟩

/-- The tests that are joined are those that occur in the result. -/
theorem occurs_joinTypes_iff {leaves : List Filter} {predicate : Predicate} {sign' : Sign}
    {ps : List Pattern}
    (hleaves : ∀ x ∈ leaves, ∃ predicate sign ps, x = .leaf predicate sign ps) :
    Filter.Occurs (.leaf predicate sign' ps) (joinTypes sign leaves) ↔
      Filter.leaf predicate sign' ps ∈ leaves := by
  have hhere : ∀ x ∈ leaves, Filter.Occurs (.leaf predicate sign' ps) x →
      x = .leaf predicate sign' ps := by
    intro x hx h
    obtain ⟨_, _, _, rfl⟩ := hleaves x hx
    cases h
    rfl
  rw [joinTypes.eq_def]
  split
  · next x =>
      have hx := List.mem_singleton_self x
      exact ⟨fun h => hhere x hx h ▸ hx, fun h => List.mem_singleton.mp h ▸ .here⟩
  · cases sign
    · refine ⟨fun h => ?_, fun h => .any h .here⟩
      cases h with
      | any hy h => exact hhere _ hy h ▸ hy
    · refine ⟨fun h => ?_, fun h => .all h .here⟩
      cases h with
      | all hy h => exact hhere _ hy h ▸ hy

theorem exists_leaf_of_literal (h : PartOf (.type sign literals) d)
    (hlower : d.lower options = .ok t) {literal : List Char} (hliteral : literal ∈ literals) :
    ∃ p, Pattern.literal options.pattern (unescape literal) = .ok p ∧
      Filter.Occurs (.leaf (options.typeRules.resolve (unescape literal)) sign [p]) t := by
  obtain ⟨y, htest, hocc⟩ := h.exists_occurs hlower
  rw [lower] at htest
  obtain ⟨leaves, hleaves, rfl⟩ := map_eq_ok_iff.mp htest
  have hleaves := lowerTypes_eq_ok_iff.mp hleaves
  obtain ⟨leaf, hmem, hleaf⟩ := exists_mem_of_forall₂ hleaves hliteral
  obtain ⟨p, hp, rfl⟩ := lowerType_eq_ok_iff.mp hleaf
  exact ⟨p, hp, ((occurs_joinTypes_iff (isLeaf_of_lowerTypes hleaves)).mpr hmem).trans hocc⟩

theorem exists_literal_of_leaf {tag : String} {ps : List Pattern}
    (hlower : d.lower options = .ok t)
    (h : Filter.Occurs (.leaf (.genericType tag) sign ps) t) :
    ∃ literals, PartOf (.type sign literals) d ∧
      ∃ literal ∈ literals, options.typeRules.resolve (unescape literal) = .genericType tag := by
  induction d using Definition.induction generalizing t with
  | folder =>
      rw [lower] at hlower
      cases hlower
      cases h
  | all ds ih =>
      rw [lower] at hlower
      obtain ⟨xs, hxs, rfl⟩ := map_eq_ok_iff.mp hlower
      cases h with
      | all hy h =>
          obtain ⟨child, hmem, hchild⟩ := exists_lowering hxs hy
          obtain ⟨literals, hpart, hliteral⟩ := ih child hmem hchild h
          exact ⟨literals, .all hmem hpart, hliteral⟩
  | any ds ih =>
      rw [lower] at hlower
      obtain ⟨xs, hxs, rfl⟩ := map_eq_ok_iff.mp hlower
      cases h with
      | any hy h =>
          obtain ⟨child, hmem, hchild⟩ := exists_lowering hxs hy
          obtain ⟨literals, hpart, hliteral⟩ := ih child hmem hchild h
          exact ⟨literals, .any hmem hpart, hliteral⟩
  | field f sign' patterns =>
      rw [lower] at hlower
      obtain ⟨qs, -, rfl⟩ := map_eq_ok_iff.mp hlower
      cases h
  | type sign' literals =>
      rw [lower] at hlower
      obtain ⟨leaves, hleaves, rfl⟩ := map_eq_ok_iff.mp hlower
      have hleaves := lowerTypes_eq_ok_iff.mp hleaves
      have hmem := (occurs_joinTypes_iff (isLeaf_of_lowerTypes hleaves)).mp h
      obtain ⟨literal, hliteral, hleaf⟩ := exists_mem_of_forall₂ hleaves.flip hmem
      obtain ⟨p, -, heq⟩ := lowerType_eq_ok_iff.mp hleaf
      obtain ⟨hpredicate, rfl, -⟩ := Filter.leaf.inj heq
      exact ⟨literals, .here, literal, hliteral, hpredicate.symm⟩

theorem literal_ne_nil {source : List Char} (hspelled : SpelledBy d source)
    (hpart : PartOf (.type sign literals) d) : ∀ literal ∈ literals, literal ≠ [] := by
  cases hspelled with
  | intro _ hspells _ =>
      obtain ⟨part, -, htest⟩ := hpart.exists_text hspells
      cases htest with
      | type _ hsigned => exact hsigned.forall fun _ _ => Argument.forall_ne_nil

end

end Definition

namespace CompiledFilter

open Definition

/-- A type has no name exactly if it was written as a backslash alone. -/
theorem compile_empty_name_iff {options : ParseOptions} {source : String} {c : CompiledFilter}
    (h : compile options source = .ok c) :
    AllBlank source.toList ∧ c.root = .acceptAll ∨
      ∃ d, read options.maxDepth.toNat source.toList = .ok (some d) ∧
        (∀ sign literals, PartOf (.type sign literals) d → ∀ literal ∈ literals,
          literal ≠ [] ∧ (unescape literal = [] ↔ literal = ['\\']) ∧
            ∃ p, Pattern.literal options.pattern (unescape literal) = .ok p ∧
              Filter.Occurs
                (.leaf (options.typeRules.resolve (unescape literal)) sign [p]) c.root ∧
              (p.source = "^$" ↔ literal = ['\\'])) ∧
        ((∃ sign ps, Filter.Occurs (.leaf (.genericType "") sign ps) c.root) ↔
          options.typeRules.resolve [] = .genericType "" ∧
            ∃ sign literals, PartOf (.type sign literals) d ∧ ['\\'] ∈ literals) := by
  obtain ⟨-, hroot⟩ := compile_eq_ok_iff.mp h
  rw [Filter.parse, Filter.ofChars_eq_ok_iff] at hroot
  rcases hroot with hblank | ⟨d, hspelled, hnesting, hlower⟩
  · exact .inl hblank
  have hname : ∀ sign literals, PartOf (.type sign literals) d → ∀ literal ∈ literals,
      (unescape literal = [] ↔ literal = ['\\']) := by
    intro sign literals hpart literal hliteral
    rw [unescape_eq_nil_iff, or_iff_right (literal_ne_nil hspelled hpart literal hliteral)]
  refine .inr ⟨d, read_eq_some_iff.mpr ⟨hspelled, hnesting⟩, ?_, ?_, ?_⟩
  · intro sign literals hpart literal hliteral
    obtain ⟨p, hp, hocc⟩ := exists_leaf_of_literal hpart hlower hliteral
    refine ⟨literal_ne_nil hspelled hpart literal hliteral, hname _ _ hpart _ hliteral, p, hp,
      hocc, ?_⟩
    rw [← hname _ _ hpart _ hliteral, ← literalSource_eq_iff, ← source_of_ofChars hp]
    exact String.toList_inj.symm
  · intro h
    obtain ⟨sign, ps, hocc⟩ := h
    obtain ⟨literals, hpart, literal, hliteral, htag⟩ := exists_literal_of_leaf hlower hocc
    have hempty : unescape literal = [] := resolve_generic htag
    obtain rfl := (hname _ _ hpart _ hliteral).mp hempty
    exact ⟨htag, sign, literals, hpart, hliteral⟩
  · intro h
    obtain ⟨hgeneric, sign, literals, hpart, hliteral⟩ := h
    obtain ⟨p, -, hocc⟩ := exists_leaf_of_literal hpart hlower hliteral
    rw [show unescape ['\\'] = [] from rfl, hgeneric] at hocc
    exact ⟨sign, [p], hocc⟩

/-- Below combinators and beside names, bare or in quotes. -/
theorem compile_empty_name_iff_of_nested :
    ∃ c, compile .default "and\x7bType(-a, '\\ '), Folder()\x7d" = .ok c ∧
      ∃ sign ps, Filter.Occurs (.leaf (.genericType "") sign ps) c.root := by
  have hcompile : (compile .default "and\x7bType(-a, '\\ '), Folder()\x7d").map (fun _ => ()) =
      .ok () := by
    decide +kernel
  have hread : read 64 "and\x7bType(-a, '\\ '), Folder()\x7d".toList =
      .ok (some (.all [.type .exclude [['a'], ['\\']], .folder])) := by
    decide +kernel
  obtain ⟨c, hc, -⟩ := map_eq_ok_iff.mp hcompile
  refine ⟨c, hc, ?_⟩
  rcases compile_empty_name_iff hc with ⟨hblank, -⟩ | ⟨d, hd, -, hiff⟩
  · exact absurd (hblank 'a' (by decide)) (by decide)
  · obtain rfl := Option.some.inj (Except.ok.inj (hread.symm.trans hd))
    exact hiff.mpr ⟨rfl, _, _, .all (List.mem_cons_self ..) .here,
      List.mem_cons_of_mem _ (List.mem_singleton_self _)⟩

/-- A backslash alone is accepted as the name of a type. -/
theorem compile_empty_name_of_backslash :
    ¬ ∀ c, compile .default "Type(\\)" = .ok c →
      ∀ sign ps, ¬ Filter.Occurs (.leaf (.genericType "") sign ps) c.root := by
  have hcompile : compile .default "Type(\\)" =
      .ok ⟨"Type(\\)", .leaf (.genericType "") .include
        [⟨"^$", .cat (.look .textStart) (.look .textEnd)⟩]⟩ := by
    decide +kernel
  intro h
  exact h _ hcompile _ _ .here

end CompiledFilter

end NodeSieve
