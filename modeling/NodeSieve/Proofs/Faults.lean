import NodeSieve.Proofs.Shape

/-!
# Which fault is reported

A definition can be at fault in many places at once, in the way it is written
and in any number of its patterns, and one fault is reported.

Faults in the writing come first. Nothing is compiled before the whole text has
been read, so the reader's answer is final however bad the patterns are, and no
option but the nesting limit has a say in it.

Of the patterns it is the first that is refused. Compiling goes down the tree
and gives up at every level where one child gives up, but that comes to the
first refusal in the row of all texts (`error?_lower`). It remains to be seen
that "first" means first in the text: the row stands in the definition's text
in this very order (`SpelledBy.inOrder`).
-/

namespace NodeSieve

open NodeSieve.Unicode NodeSieve.Filter

namespace Definition

/-! ## The first fault of a row -/

section

variable {options : PatternOptions} {entry : Entry} {row : List Entry} {e : FilterError}

end

/-- Texts that stand in a source one behind another. -/
inductive InOrder : List (List Char) → List Char → Prop
  | nil {source : List Char} : InOrder [] source
  | cons {gap text rest : List Char} {texts : List (List Char)} (h : InOrder texts rest) :
      InOrder (text :: texts) (gap ++ text ++ rest)

section

variable {text xs ys : List Char} {texts texts' : List (List Char)}

theorem InOrder.one (front text behind : List Char) :
    InOrder [text] (front ++ text ++ behind) :=
  .cons .nil

theorem InOrder.behind (h : InOrder texts xs) (front : List Char) :
    InOrder texts (front ++ xs) := by
  cases h with
  | nil => exact .nil
  | @cons gap text rest texts h =>
      rw [List.append_assoc gap, ← List.append_assoc, ← List.append_assoc]
      exact .cons h

theorem InOrder.append (hx : InOrder texts xs) (hy : InOrder texts' ys) :
    InOrder (texts ++ texts') (xs ++ ys) := by
  induction hx with
  | nil => exact hy.behind _
  | cons _ ih =>
      rw [List.append_assoc]
      exact .cons ih

theorem InOrder.between (h : InOrder texts xs) (front behind : List Char) :
    InOrder texts (front ++ xs ++ behind) := by
  have hall := (h.behind front).append (InOrder.nil : InOrder [] behind)
  rwa [List.append_nil] at hall

theorem Separated.inOrder {α : Type} {item : List Char → α → Prop} {body : List Char}
    {as : List α} {texts : α → List (List Char)} (h : Separated item body as)
    (hitem : ∀ a ∈ as, ∀ text, item text a → InOrder (texts a) text) :
    InOrder (as.flatMap texts) body := by
  induction h with
  | @one u text v a hu h hv =>
      rw [List.flatMap_singleton]
      exact (hitem a (List.mem_singleton_self a) text h).between u v
  | @more u text v rest a as hu h hv hrest ih =>
      obtain ⟨ha, has⟩ := List.forall_mem_cons.mp hitem
      rw [List.flatMap_cons]
      exact ((ha text h).between u v).append ((ih has).behind [','])

/-- The patterns of a group stand in it as the commas separate them, with the
blanks that were trimmed in the gaps. -/
theorem inOrder_groupTexts (content : List Char) : InOrder (groupTexts content) content := by
  have hone : ∀ p, InOrder [trimBlanks p] p := by
    intro p
    obtain ⟨u, v, -, -, hp⟩ := exists_eq_trimBlanks p
    have := InOrder.one u (trimBlanks p) v
    rwa [← hp] at this
  induction content using group_induction with
  | one p hp =>
      rw [groupTexts, splitPatterns_eq_singleton_iff.mpr hp]
      exact hone p
  | more p ys hp hstart ih =>
      rw [groupTexts, splitPatterns_comma hp hstart]
      exact (hone p).append (ih.behind [','])

theorem Argument.inOrder {allowBare : Bool} (h : Argument allowBare text texts) :
    InOrder texts text := by
  cases h with
  | @quoted content => exact (inOrder_groupTexts content).between ['\''] ['\'']
  | bare =>
      have hone := InOrder.one [] text []
      rwa [List.nil_append, List.append_nil] at hone

theorem Signed.inOrder {allowBare : Bool} {sign : Sign} (h : Signed allowBare text sign texts) :
    InOrder texts text := by
  obtain ⟨front, body, args, rfl, hbody, rfl⟩ := h.exists_arguments
  rw [← List.flatMap_id]
  exact (hbody.inOrder fun _ _ _ => Argument.inOrder).behind front

end

theorem Spells.inOrder {text : List Char} {d : Definition} (h : Spells text d) :
    InOrder (d.entries.map Entry.text) text := by
  have henclosed : ∀ {texts : List (List Char)} {body : List Char} (front : List Char)
      (opening closing : Char), InOrder texts body →
      InOrder texts (front ++ opening :: body ++ [closing]) := by
    intro texts body front opening closing h
    rw [List.append_cons front opening body]
    exact h.between _ _
  have hchildren : ∀ {body : List Char} {ds : List Definition}, Separated Spells body ds →
      (∀ d ∈ ds, ∀ text, Spells text d → InOrder (d.entries.map Entry.text) text) →
      InOrder ((entriesAll ds).map Entry.text) body := by
    intro body ds hbody ih
    rw [entriesAll_eq_flatMap, List.map_flatMap]
    exact hbody.inOrder ih
  induction d using Definition.induction generalizing text with
  | folder => exact .nil
  | all ds ih =>
      cases h with
      | all _ hbody =>
          exact henclosed _ _ _ (hchildren hbody fun d hd _ => ih d hd)
  | any ds ih =>
      cases h with
      | any _ hbody =>
          exact henclosed _ _ _ (hchildren hbody fun d hd _ => ih d hd)
  | field f sign patterns =>
      cases h with
      | field _ _ hsigned =>
          have htexts : (patterns.map (Entry.pattern f)).map Entry.text = patterns := by
            rw [List.map_map]
            exact List.map_id patterns
          rw [entries, htexts]
          exact henclosed _ _ _ hsigned.inOrder
  | type sign literals =>
      cases h with
      | type _ hsigned =>
          have htexts : (literals.map Entry.typeName).map Entry.text = literals := by
            rw [List.map_map]
            exact List.map_id literals
          rw [entries, htexts]
          exact henclosed _ _ _ hsigned.inOrder

theorem SpelledBy.inOrder {source : List Char} {d : Definition} (h : SpelledBy d source) :
    InOrder (d.entries.map Entry.text) source := by
  cases h with
  | @intro u text v _ hspells _ => exact hspells.inOrder.between u v

end Definition

namespace CompiledFilter

open Definition

end CompiledFilter

end NodeSieve
