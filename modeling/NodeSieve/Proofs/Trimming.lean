import NodeSieve.Proofs.Shape

/-!
# What trimming does to escapes

A group is split with an eye on its escapes and its pieces are trimmed without.
The pieces are whole: no piece of a group ends on a backslash that is still
open, because a comma behind one would not have separated and a quote behind
one would not have closed. The texts that are left of them need not be. A
piece that ends on an escaped blank loses the blank and keeps the backslash.

That is the only way it happens (`endsOpen_trimBlanks_iff`), for every text
that a definition takes from a group.
-/

namespace NodeSieve.Definition

open NodeSieve.Unicode

/-! ## Open ends -/

/-- Read from the left, with each backslash taking the character behind it, a
text ends on a backslash that has nothing to take. -/
def EndsOpen (text : List Char) : Prop :=
  escapeAfter? false text = some true

instance (text : List Char) : Decidable (EndsOpen text) :=
  inferInstanceAs (Decidable (escapeAfter? false text = some true))

/-- A text ends with a blank that a backslash protects, and perhaps more
blanks. -/
def EscapedBlankEnd (piece : List Char) : Prop :=
  ∃ text b blanks, piece = text ++ '\\' :: b :: blanks ∧
    escapeAfter? false text = some false ∧ AllBlank (b :: blanks)

theorem endsOpen_iff {text : List Char} :
    EndsOpen text ↔ ∃ init, text = init ++ ['\\'] ∧ escapeAfter? false init = some false := by
  constructor
  · intro h
    rcases List.eq_nil_or_concat text with rfl | ⟨init, c, rfl⟩
    · cases h
    · rw [List.concat_eq_append] at h ⊢
      rw [EndsOpen, escapeAfter?_append] at h
      obtain ⟨escaped, hinit, hlast⟩ := Option.bind_eq_some_iff.mp h
      cases escaped with
      | true => cases hlast
      | false =>
          rw [escapeAfter?, if_neg (by decide)] at hlast
          split at hlast
          · next hslash => exact ⟨init, by rw [hslash], hinit⟩
          · split at hlast
            · cases hlast
            · cases hlast
  · intro h
    obtain ⟨init, rfl, hinit⟩ := h
    rw [EndsOpen, escapeAfter?_append, hinit]
    rfl

/-- Of a whole text, trimming leaves an open end exactly if there was an
escaped blank. -/
theorem endsOpen_trimBlanks_iff {piece : List Char}
    (hpiece : escapeAfter? false piece = some false) :
    EndsOpen (trimBlanks piece) ↔ EscapedBlankEnd piece := by
  constructor
  · intro h
    obtain ⟨init, hinit, hclosed⟩ := endsOpen_iff.mp h
    obtain ⟨u, v, hu, hv, heq⟩ := exists_eq_trimBlanks piece
    cases v with
    | nil =>
        rw [List.append_nil] at heq
        rw [heq, escapeAfter?_append, escapeAfter?_allBlank hu, Option.bind_some,
          show escapeAfter? false (trimBlanks piece) = some true from h] at hpiece
        cases hpiece
    | cons b blanks =>
        refine ⟨u ++ init, b, blanks, ?_, ?_, hv⟩
        · rw [heq, hinit, List.append_assoc, List.append_assoc, List.append_assoc]
          rfl
        · rw [escapeAfter?_append, escapeAfter?_allBlank hu, Option.bind_some, hclosed]
  · intro h
    obtain ⟨text, b, blanks, rfl, hclosed, hblanks⟩ := h
    obtain ⟨u, hu, htext⟩ := exists_eq_append_dropBlanks text
    rw [htext, escapeAfter?_append, escapeAfter?_allBlank hu, Option.bind_some] at hclosed
    refine endsOpen_iff.mpr ⟨dropBlanks text, ?_, hclosed⟩
    rw [trimBlanks, dropBlanks_append_cons_eq (by decide),
      dropTrailingBlanks_append_cons (by decide), dropTrailingBlanks_of_allBlank hblanks]

/-! ## Parts of a definition -/

/-- A definition stands somewhere in another one, or is it. -/
inductive PartOf (x : Definition) : Definition → Prop
  | here : PartOf x x
  | all {y : Definition} {ds : List Definition} (hy : y ∈ ds) (h : PartOf x y) :
      PartOf x (.all ds)
  | any {y : Definition} {ds : List Definition} (hy : y ∈ ds) (h : PartOf x y) :
      PartOf x (.any ds)

theorem within_enclosed (front text : List Char) (opening closing : Char) :
    text <:+: front ++ opening :: text ++ [closing] :=
  ⟨front ++ [opening], [closing], by simp⟩

theorem Separated.exists_item {α : Type} {item : List Char → α → Prop} {body : List Char}
    {as : List α} (h : Separated item body as) {a : α} (ha : a ∈ as) :
    ∃ text, text <:+: body ∧ item text a := by
  induction h with
  | @one u text v a' hu h hv =>
      obtain rfl := List.mem_singleton.mp ha
      exact ⟨text, ⟨u, v, rfl⟩, h⟩
  | @more u text v rest a' as hu h hv hrest ih =>
      rcases List.mem_cons.mp ha with rfl | ha
      · exact ⟨text, ⟨u, v ++ ',' :: rest, (List.append_assoc ..).symm⟩, h⟩
      · obtain ⟨text', hwithin, h'⟩ := ih ha
        have hrest : rest <:+: u ++ text ++ v ++ ',' :: rest :=
          ⟨u ++ text ++ v ++ [','], [], by simp⟩
        exact ⟨text', hwithin.trans hrest, h'⟩

/-- The text of a part stands in the text of the whole. -/
theorem PartOf.exists_text {x d : Definition} (h : PartOf x d) {text : List Char}
    (hspells : Spells text d) : ∃ part, part <:+: text ∧ Spells part x := by
  induction h generalizing text with
  | here => exact ⟨text, List.infix_rfl, hspells⟩
  | all hy _ ih =>
      cases hspells with
      | all _ hbody =>
          obtain ⟨child, hchild, hspells⟩ := hbody.exists_item hy
          obtain ⟨part, hpart, hx⟩ := ih hspells
          exact ⟨part, hpart.trans (hchild.trans (within_enclosed _ _ _ _)), hx⟩
  | any hy _ ih =>
      cases hspells with
      | any _ hbody =>
          obtain ⟨child, hchild, hspells⟩ := hbody.exists_item hy
          obtain ⟨part, hpart, hx⟩ := ih hspells
          exact ⟨part, hpart.trans (hchild.trans (within_enclosed _ _ _ _)), hx⟩

/-! ## The texts of a test -/

/-- An argument with what trimming did to the pieces of its group: those that
ended on an escaped blank are open now. -/
structure TrimmedArgument (allowBare : Bool) (text : List Char) (texts : List (List Char)) :
    Prop where
  argument : Argument allowBare text texts
  texts_eq : ∀ content, text = inQuotes content → texts = groupTexts content
  open_iff : ∀ content, text = inQuotes content → ∀ piece ∈ splitPatterns content,
    EndsOpen (trimBlanks piece) ↔ EscapedBlankEnd piece

/-- The texts of a test are those of the arguments that stand in a text, one
behind another. -/
def TakenFrom (source : List Char) (allowBare : Bool) (texts : List (List Char)) : Prop :=
  ∃ body args, body <:+: source ∧ Separated (TrimmedArgument allowBare) body args ∧
    texts = args.flatten

section

variable {allowBare : Bool} {sign : Sign} {text : List Char} {texts : List (List Char)}

theorem Argument.trimmed (h : Argument allowBare text texts) :
    TrimmedArgument allowBare text texts := by
  cases h with
  | @quoted content hcontent hne =>
      have hunique : ∀ content', inQuotes content = inQuotes content' → content = content' :=
        fun content' heq => List.append_cancel_right (List.cons.inj heq).2
      refine ⟨.quoted hcontent hne, fun content' heq => ?_, fun content' heq piece hpiece => ?_⟩
      · rw [← hunique content' heq]
        rfl
      · rw [← hunique content' heq] at hpiece
        exact endsOpen_trimBlanks_iff (splitPatterns_closed hcontent hpiece)
  | bare hallow hne hbare =>
      have hquote : ∀ content, text ≠ inQuotes content := by
        rintro content rfl
        exact absurd (hbare '\'' (List.mem_cons_self ..)) (by decide)
      exact ⟨.bare hallow hne hbare, fun content heq => absurd heq (hquote content),
        fun content heq => absurd heq (hquote content)⟩

theorem Separated.imp {α : Type} {item item' : List Char → α → Prop} {body : List Char}
    {as : List α} (h : Separated item body as)
    (hitem : ∀ text a, item text a → item' text a) : Separated item' body as := by
  induction h with
  | one hu h hv => exact .one hu (hitem _ _ h) hv
  | more hu h hv _ ih => exact .more hu (hitem _ _ h) hv ih

theorem Signed.takenFrom (h : Signed allowBare text sign texts) {source : List Char}
    (htext : text <:+: source) : TakenFrom source allowBare texts := by
  obtain ⟨front, body, args, rfl, hbody, rfl⟩ := h.exists_arguments
  have hwithin : body <:+: front ++ body := ⟨front, [], List.append_nil _⟩
  exact ⟨body, args, hwithin.trans htext, hbody.imp fun _ _ => Argument.trimmed, rfl⟩

end

/-- Of the texts that a definition takes from its groups, those end open whose
pieces ended on an escaped blank, and no others. -/
theorem read_endsOpen_iff {limit : Nat} {source : List Char} {d : Definition}
    (h : read limit source = .ok (some d)) :
    (∀ f sign patterns, PartOf (.field f sign patterns) d → TakenFrom source false patterns) ∧
      ∀ sign literals, PartOf (.type sign literals) d → TakenFrom source true literals := by
  obtain ⟨hspelled, -⟩ := read_eq_some_iff.mp h
  cases hspelled with
  | @intro u text v _ hspells _ =>
      have htext : text <:+: u ++ text ++ v := ⟨u, v, rfl⟩
      constructor
      · intro f sign patterns hpart
        obtain ⟨part, hwithin, htest⟩ := hpart.exists_text hspells
        cases htest with
        | field _ _ hsigned =>
            exact hsigned.takenFrom ((within_enclosed _ _ _ _).trans (hwithin.trans htext))
      · intro sign literals hpart
        obtain ⟨part, hwithin, htest⟩ := hpart.exists_text hspells
        cases htest with
        | type _ hsigned =>
            exact hsigned.takenFrom ((within_enclosed _ _ _ _).trans (hwithin.trans htext))

theorem read_endsOpen_iff_of_nested :
    TakenFrom "or\x7bFolder(), Type(-c, 'd\\\\ , \\ e\\ ')\x7d".toList true
      [['c'], ['d', '\\', '\\'], ['\\', ' ', 'e', '\\']] := by
  have hread : read 64 "or\x7bFolder(), Type(-c, 'd\\\\ , \\ e\\ ')\x7d".toList =
      .ok (some (.any [.folder, .type .exclude
        [['c'], ['d', '\\', '\\'], ['\\', ' ', 'e', '\\']]])) := by
    decide +kernel
  exact (read_endsOpen_iff hread).2 _ _
    (.any (List.mem_cons_of_mem _ (List.mem_singleton_self _)) .here)

/-- The escaped blank at the end is cut off, and its backslash stays. -/
theorem read_endsOpen_of_escaped_blank :
    ¬ ∀ d, read 64 "Name('a\\ ')".toList = .ok (some d) →
      ∀ f sign patterns, PartOf (.field f sign patterns) d →
        ∀ text ∈ patterns, ¬ EndsOpen text := by
  have hread : read 64 "Name('a\\ ')".toList =
      .ok (some (.field .name .include [['a', '\\']])) := by
    decide +kernel
  intro h
  exact h _ hread _ _ _ .here _ (List.mem_singleton_self _) (by decide)

end NodeSieve.Definition
