import NodeSieve.Proofs.Canonical
import NodeSieve.Proofs.Pieces

/-!
# Patterns in parentheses

A pattern may be put into parentheses to keep its commas together. The scanner
that splits a group knows much less of patterns than their reader does, so
this file asks when it stays inside of the parentheses up to the last
character.

It does for every pattern of plain pieces: there the scanner counts the groups
that are open, and with one more around them the count stays above zero. The
pieces that are not plain are those where the two can disagree, and one of
them can be enough to lose the parentheses. A closing brace that stands for
itself is counted as the end of a group, and a comma behind it separates what
is no pattern on either side.
-/

namespace NodeSieve

open NodeSieve.Definition NodeSieve.Definition.Scan NodeSieve.Unicode

/-! ## The text -/

section

variable {p : List Char}

theorem joinable_parenthesized : joinable ['(' :: p ++ [')']] = true := by
  have hclose : Scan.start.after ('(' :: p ++ [')']) = (Scan.start.after ('(' :: p)).next ')' :=
    Scan.after_append _ _ _
  rw [joinable, hclose, next_escaped, show (')' == '\\') = false from rfl, Bool.and_false]
  rfl

theorem patternText_parenthesized (hquote : escapeAfter? false p ≠ none)
    (hunsplit : UnsplitFrom .start ('(' :: p ++ [')'])) : PatternText ('(' :: p ++ [')']) where
  ne_nil := List.cons_ne_nil _ _
  trimmed := by
    have hopen : isBlank '(' = false := by decide
    have hclose : isBlank ')' = false := by decide
    have hends : '(' :: (p ++ [')']) = '(' :: p ++ [')'] := rfl
    exact trimBlanks_of_ends hopen hclose hends
  unsplit := hunsplit
  unquoted := by
    obtain ⟨e, he⟩ := Option.ne_none_iff_exists'.mp hquote
    rw [List.cons_append, escapeAfter?_plain (by decide) (by decide), escapeAfter?_append, he]
    cases e <;> exact Option.some_ne_none false

end

/-- A test of one pattern compiles if the pattern's text is one that a group
gives and takes. -/
theorem Filter.ofChars_renderTest {options : ParseOptions} {f : Field} {sign : Sign}
    {text : List Char} {p : Pattern} (hp : Pattern.ofChars options.pattern text = .ok p)
    (htext : PatternText text) (hjoin : joinable [text] = true) :
    Filter.ofChars options (Filter.renderTest f.label sign text) =
      .ok (.leaf (.field f) sign [p]) := by
  have hsource := source_of_ofChars hp
  have hspells : Spells (Filter.renderTest f.label sign text) (.field f sign [text]) := by
    rw [← hsource] at htext hjoin ⊢
    exact Filter.spells_field f sign (List.cons_ne_nil p [])
      (List.forall_mem_singleton.mpr htext) hjoin
  have hspelled := SpelledBy.intro AllBlank.nil hspells AllBlank.nil
  rw [List.nil_append, List.append_nil] at hspelled
  have hlower : lowerPatterns options f.label [text] = .ok [p] :=
    lowerPatterns_eq_ok_iff.mpr (.cons hp .nil)
  refine Filter.ofChars_eq_ok_iff.mpr (.inr ⟨_, hspelled, Nat.zero_le _, ?_⟩)
  rw [lower, hlower]
  rfl

/-! ## Plain patterns -/

namespace Regex

/-- Between parentheses the scanner never stands where a comma separates. -/
theorem unsplit_of_plain {ignoreCase : Bool} {sizeLimit : Nat} {p : List Char} {term : Term}
    (h : compile ignoreCase sizeLimit p = .ok term) (hplain : PlainFrom .start p) :
    UnsplitFrom .start ('(' :: p ++ [')']) := by
  have hmoves : Moves (steady 0 1) p (steady 0 1) := moves_of_compile h hplain (.inl Nat.one_pos)
  have hopen : Moves .start ['('] (steady 0 1) := .cons (.inl (by decide)) .nil
  have hclose : Moves (steady 0 1) [')'] .start := .cons (.inl (by decide)) .nil
  exact ((hopen.append hmoves).append hclose).unsplit

/-- A class of one character has no other item. -/
theorem eq_of_has_literal {l : Literal} {i : ClassItem}
    (h : (ClassSet.item (.literal l)).Has i) : i = .literal l := by
  generalize hset : ClassSet.item (.literal l) = set at h
  induction h with
  | item i => exact (ClassSet.item.inj hset).symm
  | left | right => cases hset
  | union _ _ ih => cases ih hset
  | bracketed _ _ ih => cases ih hset

end Regex

/-! ## The definition -/

namespace CompiledFilter

/-- A pattern in parentheses is one pattern of one test if, and only if, the
scanner finds no separating comma in it. -/
theorem compile_parenthesized_iff {p : String} {group : Pattern}
    (hgroup : Pattern.compile .default ("(" ++ p ++ ")") = .ok group)
    (hquote : escapeAfter? false p.toList ≠ none) :
    compile .default ("Name(+'(" ++ p ++ ")')") =
        .ok ⟨"Name(+'(" ++ p ++ ")')", .leaf (.field .name) .include [group]⟩ ↔
      UnsplitFrom .start ('(' :: p.toList ++ [')']) := by
  have htext : ("Name(+'(" ++ p ++ ")')").toList =
      Filter.renderTest Field.name.label .include ('(' :: p.toList ++ [')']) := by
    simp only [String.toList_append, Filter.renderTest, List.append_assoc, List.cons_append]
    rfl
  rw [Pattern.compile, String.toList_append, String.toList_append] at hgroup
  have hgroup : Pattern.ofChars .default ('(' :: p.toList ++ [')']) = .ok group := hgroup
  constructor
  · intro h
    obtain ⟨-, hroot⟩ := compile_eq_ok_iff.mp h
    rcases Filter.shaped_of_ofChars hroot with hnone | hshaped
    · cases hnone
    · cases hshaped with
      | field _ hpatterns =>
          have hunsplit := (List.forall_mem_singleton.mp hpatterns).1.unsplit
          rwa [source_of_ofChars hgroup] at hunsplit
  · intro hunsplit
    refine compile_eq_ok_iff.mpr ⟨rfl, ?_⟩
    rw [Filter.parse, htext]
    exact Filter.ofChars_renderTest hgroup (patternText_parenthesized hquote hunsplit)
      joinable_parenthesized

/-- What parentheses protect: of the patterns that are patterns with and
without them, those in which the scanner finds no separating comma, and all
that are made of plain pieces are among these. -/
theorem compile_parenthesized {p : String} {inner group : Pattern}
    (hinner : Pattern.compile .default p = .ok inner)
    (hgroup : Pattern.compile .default ("(" ++ p ++ ")") = .ok group)
    (hquote : escapeAfter? false p.toList ≠ none) :
    group.source = "(" ++ p ++ ")" ∧
      (compile .default ("Name(+'(" ++ p ++ ")')") =
          .ok ⟨"Name(+'(" ++ p ++ ")')", .leaf (.field .name) .include [group]⟩ ↔
        UnsplitFrom .start ('(' :: p.toList ++ [')'])) ∧
      (Regex.PlainFrom .start p.toList →
        compile .default ("Name(+'(" ++ p ++ ")')") =
          .ok ⟨"Name(+'(" ++ p ++ ")')", .leaf (.field .name) .include [group]⟩) := by
  have hiff := compile_parenthesized_iff hgroup hquote
  refine ⟨String.toList_inj.mp (source_of_ofChars hgroup), hiff, fun hplain => hiff.mpr ?_⟩
  rw [Pattern.compile, Pattern.ofChars] at hinner
  obtain ⟨term, hterm, -⟩ := map_eq_ok_iff.mp hinner
  exact Regex.unsplit_of_plain hterm hplain

/-- A comma between pieces, one in a class and one in a counted repetition
stay in the one pattern. -/
theorem compile_parenthesized_of_class :
    ∃ inner group, Pattern.compile .default "a,[,]\x7b1,2\x7d" = .ok inner ∧
      Pattern.compile .default ("(" ++ "a,[,]\x7b1,2\x7d" ++ ")") = .ok group ∧
      escapeAfter? false "a,[,]\x7b1,2\x7d".toList ≠ none ∧
      Regex.PlainFrom .start "a,[,]\x7b1,2\x7d".toList ∧
      compile .default ("Name(+'(" ++ "a,[,]\x7b1,2\x7d" ++ ")')") =
        .ok ⟨"Name(+'(" ++ "a,[,]\x7b1,2\x7d" ++ ")')",
          .leaf (.field .name) .include [group]⟩ := by
  have hinner : (Pattern.compile .default "a,[,]\x7b1,2\x7d").map (fun _ => ()) = .ok () := by decide +kernel
  have hgroup : (Pattern.compile .default ("(" ++ "a,[,]\x7b1,2\x7d" ++ ")")).map (fun _ => ()) =
      .ok () := by decide +kernel
  obtain ⟨inner, hinner, -⟩ := map_eq_ok_iff.mp hinner
  obtain ⟨group, hgroup, -⟩ := map_eq_ok_iff.mp hgroup
  have hquote : escapeAfter? false "a,[,]\x7b1,2\x7d".toList ≠ none := by decide
  have hplain : Regex.PlainFrom .start "a,[,]\x7b1,2\x7d".toList := by
    have htext : "a,[,]\x7b1,2\x7d".toList =
        ['a', ',', '[', ',', ']', '\x7b', '1', ',', '2', '\x7d'] := by decide
    have hletter : Regex.readToken false false 'a'
        [',', '[', ',', ']', '\x7b', '1', ',', '2', '\x7d'] =
        .ok (.part (.literal (.verbatim 'a')),
          [',', '[', ',', ']', '\x7b', '1', ',', '2', '\x7d']) := rfl
    have hcomma : Regex.readToken false true ','
        ['[', ',', ']', '\x7b', '1', ',', '2', '\x7d'] =
        .ok (.part (.literal (.verbatim ',')),
          ['[', ',', ']', '\x7b', '1', ',', '2', '\x7d']) := rfl
    have hclass : Regex.readToken false true '['
        [',', ']', '\x7b', '1', ',', '2', '\x7d'] =
        .ok (.part (.bracketed false (.item (.literal (.verbatim ',')))),
          ['\x7b', '1', ',', '2', '\x7d']) := by with_unfolding_all rfl
    have hrepeated : Regex.readToken false true '\x7b' ['1', ',', '2', '\x7d'] =
        .ok (.repeated ⟨⟨1, some 2⟩, false⟩, []) := by with_unfolding_all rfl
    rw [htext]
    refine .piece hletter (show 'a' ≠ '\x7d' by decide) rfl
      (.piece hcomma (show ',' ≠ '\x7d' by decide) rfl
        (.piece hclass ?_ rfl (.piece hrepeated trivial rfl .done)))
    intro first last hrange
    cases Regex.eq_of_has_literal hrange
  exact ⟨inner, group, hinner, hgroup, hquote, hplain,
    (compile_parenthesized hinner hgroup hquote).2.2 hplain⟩

/-- A closing brace that stands for itself takes the parenthesis in front of
it away, and the comma behind it separates. -/
theorem compile_parenthesized_of_brace :
    ¬ ∀ (p : String) (inner group : Pattern), Pattern.compile .default p = .ok inner →
      Pattern.compile .default ("(" ++ p ++ ")") = .ok group →
      escapeAfter? false p.toList ≠ none →
      compile .default ("Name(+'(" ++ p ++ ")')") =
        .ok ⟨"Name(+'(" ++ p ++ ")')", .leaf (.field .name) .include [group]⟩ := by
  have hinner : (Pattern.compile .default "\x7d,a").map (fun _ => ()) = .ok () := by decide +kernel
  have hgroup : (Pattern.compile .default ("(" ++ "\x7d,a" ++ ")")).map (fun _ => ()) =
      .ok () := by decide +kernel
  obtain ⟨inner, hinner, -⟩ := map_eq_ok_iff.mp hinner
  obtain ⟨group, hgroup, -⟩ := map_eq_ok_iff.mp hgroup
  have hquote : escapeAfter? false "\x7d,a".toList ≠ none := by decide
  intro h
  have hunsplit := (compile_parenthesized_iff hgroup hquote).mp
    (h "\x7d,a" inner group hinner hgroup hquote)
  exact hunsplit.2.2.1 ⟨rfl, rfl⟩

end CompiledFilter

end NodeSieve
