import Mathlib.Data.List.Basic
import NodeSieve.Proofs.Reading

/-!
# The nesting limit is a threshold

The limit is no part of the grammar. A text spells its tree or it does not, and
the limit only decides whether the reader follows it to the end. So for each
text that can be read at all there is one number, the depth of its tree, from
which on every limit gives that tree.

Below that number the reader stops at the first word of a combinator that has as
many combinators around it as the limit allows. Two things have to be seen for
that. The reader gets past everything in front: what stands there is no deeper
than the limit, and siblings are read with the levels that their combinator
has left, however deep a child before them went. And no such word stands
earlier, which follows because the reader would have stopped there
(`Keyword.stops`).

An answer that is no complaint about nesting has never depended on the limit, so
a larger one does not change it (`readFilter_settled`).
-/

namespace NodeSieve.Definition

open NodeSieve.Unicode

/-! ## Raising the limit

A reader of lists settles under a new child reader if the children it has met
have settled. -/

/-- An answer in which no level was missing. -/
def Settled {α : Type} (answer : Read α) : Prop :=
  ∀ m, answer = .error m → m.found ≠ .deeperNesting

section

variable {α β : Type} {child child' : List Char → Read Definition} {bound : Nat} {cs : List Char}

theorem settled_ok {a : α × List Char} : Settled (.ok a : Read α) :=
  nofun

theorem settled_error {m : Mismatch} :
    Settled (.error m : Read α) ↔ m.found ≠ .deeperNesting :=
  ⟨fun h => h m rfl, fun h _ hm => Except.error.inj hm ▸ h⟩

theorem Settled.of_map {x : Read α} {f : α × List Char → β × List Char}
    (h : Settled (x.map f)) : Settled x := by
  intro m hm
  refine h m ?_
  rw [hm]
  rfl

theorem readSiblings_settled (hchild : ∀ cs, Settled (child cs) → child' cs = child cs)
    (h : Settled (readSiblings child bound cs)) :
    readSiblings child' bound cs = readSiblings child bound cs := by
  induction bound generalizing cs with
  | zero => rfl
  | succ bound ih =>
      rw [readSiblings] at h
      rw [readSiblings, readSiblings]
      cases hread : child cs with
      | error m =>
          rw [hread] at h
          rw [hchild cs (hread ▸ settled_error.mpr (settled_error.mp h)), hread]
      | ok answer =>
          rw [hread] at h
          rw [hchild cs (hread ▸ settled_ok), hread]
          simp only [] at h ⊢
          split at h
          · rw [ih h.of_map]
          · rfl
          · rfl

theorem readChildren_settled (hchild : ∀ cs, Settled (child cs) → child' cs = child cs)
    (h : Settled (readChildren child cs)) : readChildren child' cs = readChildren child cs := by
  rw [readChildren] at h
  rw [readChildren, readChildren]
  cases hopen : expectSymbol '\x7b' cs with
  | error m => rfl
  | ok rest =>
      rw [hopen] at h
      simp only [] at h ⊢
      split at h
      · rfl
      · exact readSiblings_settled hchild h

end

theorem readFilter_settled {limit limit' levels levels' : Nat} {cs : List Char}
    (hle : levels ≤ levels') (h : Settled (readFilter limit levels cs)) :
    readFilter limit' levels' cs = readFilter limit levels cs := by
  induction levels generalizing levels' cs with
  | zero =>
      rcases readFilter_combinator_or_test cs with
        ⟨word, combine, rest, hword, hname⟩ | ⟨name, rest, -, htest⟩
      · rw [readFilter_combinator_zero hword hname] at h
        exact absurd rfl (settled_error.mp h)
      · rw [htest, htest]
  | succ levels ih =>
      rcases readFilter_combinator_or_test cs with
        ⟨word, combine, rest, hword, hname⟩ | ⟨name, rest, -, htest⟩
      · obtain ⟨inner, rfl⟩ : ∃ n, levels' = n + 1 := ⟨levels' - 1, by omega⟩
        rw [readFilter_combinator_succ hword hname] at h ⊢
        rw [readFilter_combinator_succ hword hname,
          readChildren_settled (fun cs => ih (Nat.le_of_succ_le_succ hle)) h.of_map]
      · rw [htest, htest]

theorem read_settled {limit limit' : Nat} {source : List Char} (hle : limit ≤ limit')
    {m : Mismatch} (h : read limit source = .error m) (hm : m.found ≠ .deeperNesting) :
    read limit' source = .error m := by
  rw [read] at h ⊢
  split at h
  · cases h
  · have hsettled : Settled (readFilter limit limit (dropBlanks source)) := by
      intro m' hm'
      rw [hm'] at h
      cases h
      exact hm
    rw [readFilter_settled hle hsettled]
    exact h

/-! ## The words of combinators -/

/-- A place in one of the items of a list, between what stands in front of it
and what stands behind it, where `place` tells the place in the item. -/
inductive InItem {α : Type} (item : List Char → α → Prop) (place : List Char → List Char → Prop) :
    List Char → List Char → Prop
  | last {u front behind v : List Char} {a : α} (hu : AllBlank u) (h : item (front ++ behind) a)
      (hplace : place front behind) (hv : AllBlank v) :
      InItem item place (u ++ front) (behind ++ v)
  | first {u front behind v rest : List Char} {a : α} {as : List α} (hu : AllBlank u)
      (h : item (front ++ behind) a) (hplace : place front behind) (hv : AllBlank v)
      (hrest : Separated item rest as) :
      InItem item place (u ++ front) (behind ++ v ++ ',' :: rest)
  | later {u text v front behind : List Char} {a : α} (hu : AllBlank u) (h : item text a)
      (hv : AllBlank v) (hrest : InItem item place front behind) :
      InItem item place (u ++ text ++ v ++ ',' :: front) behind

/-- In the text `front ++ behind` of a filter, the word of a combinator stands
behind `front`, and so many combinators are around it. -/
def Keyword : Nat → List Char → List Char → Prop
  | 0, front, behind =>
    front = [] ∧ ∃ word combine w body ds, Combines word combine ∧ AllBlank w ∧
      Separated Spells body ds ∧ behind = word ++ w ++ '\x7b' :: body ++ ['\x7d']
  | around + 1, front, behind =>
    ∃ word combine w front' behind', Combines word combine ∧ AllBlank w ∧
      InItem Spells (Keyword around) front' behind' ∧
      front = word ++ w ++ '\x7b' :: front' ∧ behind = behind' ++ ['\x7d']

/-- The same in a whole text, which may have blanks around its filter. -/
def KeywordIn (source : List Char) (around : Nat) (front behind : List Char) : Prop :=
  ∃ u front' behind' v, AllBlank u ∧ Keyword around front' behind' ∧ AllBlank v ∧
    front = u ++ front' ∧ behind = behind' ++ v ∧ source = front ++ behind

structure FirstKeyword (source : List Char) (around : Nat) (front behind : List Char) : Prop where
  keyword : KeywordIn source around front behind
  first : ∀ front' behind', KeywordIn source around front' behind' → front.length ≤ front'.length

theorem KeywordIn.source_eq {source front behind : List Char} {around : Nat}
    (h : KeywordIn source around front behind) : source = front ++ behind := by
  obtain ⟨_, _, _, _, -, -, -, -, -, hsource⟩ := h
  exact hsource

section

variable {α : Type} {item : List Char → α → Prop} {place : List Char → List Char → Prop}
  {body front behind : List Char} {as : List α}

theorem Separated.exists_inItem (h : Separated item body as) {a : α} (ha : a ∈ as)
    (hplace : ∀ text, item text a → ∃ front behind, text = front ++ behind ∧ place front behind) :
    ∃ front behind, body = front ++ behind ∧ InItem item place front behind := by
  induction h with
  | @one u text v a' hu h hv =>
      obtain rfl := List.mem_singleton.mp ha
      obtain ⟨front, behind, rfl, hplace⟩ := hplace text h
      refine ⟨u ++ front, behind ++ v, ?_, .last hu h hplace hv⟩
      simp only [List.append_assoc]
  | @more u text v rest a' as hu h hv hrest ih =>
      rcases List.mem_cons.mp ha with rfl | ha
      · obtain ⟨front, behind, rfl, hplace⟩ := hplace text h
        refine ⟨u ++ front, behind ++ v ++ ',' :: rest, ?_, .first hu h hplace hv hrest⟩
        simp only [List.append_assoc]
      · obtain ⟨front, behind, rfl, hitem⟩ := ih ha
        refine ⟨u ++ text ++ v ++ ',' :: front, behind, ?_, .later hu h hv hitem⟩
        simp only [List.append_assoc, List.cons_append]

theorem InItem.exists_item (h : InItem item place front behind) :
    ∃ as a front' behind', Separated item (front ++ behind) as ∧ a ∈ as ∧
      item (front' ++ behind') a ∧ place front' behind' := by
  induction h with
  | @last u front behind v a hu h hplace hv =>
      refine ⟨[a], a, front, behind, ?_, List.mem_singleton_self a, h, hplace⟩
      simpa only [List.append_assoc] using Separated.one hu h hv
  | @first u front behind v rest a as hu h hplace hv hrest =>
      refine ⟨a :: as, a, front, behind, ?_, List.mem_cons_self .., h, hplace⟩
      simpa only [List.append_assoc] using Separated.more hu h hv hrest
  | @later u text v front behind a hu h hv _ ih =>
      obtain ⟨as, b, front', behind', hrest, hb, hitem, hplace⟩ := ih
      refine ⟨a :: as, b, front', behind', ?_, List.mem_cons_of_mem a hb, hitem, hplace⟩
      simpa only [List.append_assoc, List.cons_append] using Separated.more hu h hv hrest

theorem InItem.blanks_append {w : List Char} (hw : AllBlank w)
    (h : InItem item place front behind) : InItem item place (w ++ front) behind := by
  cases h with
  | last hu h hplace hv =>
      rw [← List.append_assoc]
      exact .last (hw.append hu) h hplace hv
  | first hu h hplace hv hrest =>
      rw [← List.append_assoc]
      exact .first (hw.append hu) h hplace hv hrest
  | later hu h hv hrest =>
      rw [← List.append_assoc, ← List.append_assoc, ← List.append_assoc]
      exact .later (hw.append hu) h hv hrest

end

/-! ## How deep a text is -/

theorem Spells.exists_combines {text : List Char} {d : Definition} (h : Spells text d)
    (hdeep : 0 < d.nesting) :
    ∃ word combine w body ds, Combines word combine ∧ AllBlank w ∧ Separated Spells body ds ∧
      text = word ++ w ++ '\x7b' :: body ++ ['\x7d'] ∧ d = combine ds := by
  cases h with
  | all hw hbody => exact ⟨_, _, _, _, _, .all, hw, hbody, rfl, rfl⟩
  | any hw hbody => exact ⟨_, _, _, _, _, .any, hw, hbody, rfl, rfl⟩
  | field | type | folder => exact absurd hdeep (Nat.lt_irrefl 0)

theorem lt_maxNesting_iff {ds : List Definition} {n : Nat} :
    n < maxNesting ds ↔ ∃ d ∈ ds, n < d.nesting := by
  rw [← Nat.not_le, maxNesting_le_iff]
  simp only [Classical.not_forall, Nat.not_le, exists_prop]

theorem Spells.exists_keyword {around : Nat} {text : List Char} {d : Definition}
    (h : Spells text d) (hdeep : around < d.nesting) :
    ∃ front behind, text = front ++ behind ∧ Keyword around front behind := by
  induction around generalizing text d with
  | zero =>
      obtain ⟨word, combine, w, body, ds, hword, hw, hbody, rfl, -⟩ := h.exists_combines hdeep
      exact ⟨[], _, rfl, rfl, word, combine, w, body, ds, hword, hw, hbody, rfl⟩
  | succ around ih =>
      obtain ⟨word, combine, w, body, ds, hword, hw, hbody, rfl, rfl⟩ :=
        h.exists_combines (Nat.zero_lt_of_lt hdeep)
      rw [hword.nesting_eq] at hdeep
      obtain ⟨child, hchild, hdeep⟩ := lt_maxNesting_iff.mp (Nat.lt_of_succ_lt_succ hdeep)
      obtain ⟨front, behind, rfl, hitem⟩ :=
        hbody.exists_inItem hchild fun _ htext => ih htext hdeep
      refine ⟨_, _, ?_, word, combine, w, front, behind, hword, hw, hitem, rfl, rfl⟩
      simp only [List.append_assoc, List.cons_append]

theorem Keyword.exists_spells {around : Nat} {front behind : List Char}
    (h : Keyword around front behind) :
    ∃ d, Spells (front ++ behind) d ∧ around < d.nesting := by
  induction around generalizing front behind with
  | zero =>
      obtain ⟨rfl, word, combine, w, body, ds, hword, hw, hbody, rfl⟩ := h
      exact ⟨combine ds, hword.spells hw hbody, hword.nesting_eq ds ▸ Nat.succ_pos _⟩
  | succ around ih =>
      obtain ⟨word, combine, w, front, behind, hword, hw, hitem, rfl, rfl⟩ := h
      obtain ⟨ds, child, front', behind', hbody, hchild, hspells, hkeyword⟩ := hitem.exists_item
      obtain ⟨child', hspells', hdeep⟩ := ih hkeyword
      have hone : ∀ {x : Definition}, Spells (front' ++ behind') x →
          SpelledBy x ([] ++ (front' ++ behind') ++ []) :=
        fun hx => .intro AllBlank.nil hx AllBlank.nil
      rw [← (hone hspells).unique (hone hspells')] at hdeep
      refine ⟨combine ds, ?_, ?_⟩
      · simpa only [List.append_assoc, List.cons_append] using hword.spells hw hbody
      · rw [hword.nesting_eq]
        exact Nat.succ_lt_succ (lt_maxNesting_iff.mpr ⟨child, hchild, hdeep⟩)

/-! ## Where the reader stops -/

/-- A filter's text is read with so many levels up to `rest`, whatever stands
around it. -/
def StopsAt (levels : Nat) (text rest : List Char) : Prop :=
  ∀ limit u behind, AllBlank u →
    readFilter limit levels (u ++ text ++ behind) = .error (tooDeep limit (rest ++ behind))

/-- The same of a list of filters. -/
def ListStopsAt (levels : Nat) (body rest : List Char) : Prop :=
  ∀ limit bound behind, body.length < bound →
    readSiblings (readFilter limit levels) bound (body ++ '\x7d' :: behind) =
      .error (tooDeep limit (rest ++ '\x7d' :: behind))

/-- The reader stops at a place of a kind, and no later than behind `front`. -/
def StopsBy (place stopsAt : List Char → List Char → Prop) (front behind : List Char) : Prop :=
  ∃ front' behind', front' ++ behind' = front ++ behind ∧ front'.length ≤ front.length ∧
    place front' behind' ∧ stopsAt (front ++ behind) behind'

theorem StopsBy.mono {place stopsAt : List Char → List Char → Prop}
    {front behind front' behind' : List Char} (h : StopsBy place stopsAt front behind)
    (heq : front ++ behind = front' ++ behind') (hle : front.length ≤ front'.length) :
    StopsBy place stopsAt front' behind' := by
  obtain ⟨front₀, behind₀, heq₀, hle₀, hplace, hstops⟩ := h
  exact ⟨front₀, behind₀, heq₀.trans heq, Nat.le_trans hle₀ hle, hplace, heq ▸ hstops⟩

section

variable {around : Nat} {u v front behind rest : List Char}

/-- The first filter of what is left of a list stops the reader of the list. -/
theorem StopsBy.listed (hu : AllBlank u)
    (h : StopsBy (Keyword around) (StopsAt around) front behind)
    (hitem : ∀ front' behind', front' ++ behind' = front ++ behind →
      Keyword around front' behind' →
      InItem Spells (Keyword around) (u ++ front') (behind' ++ rest)) :
    StopsBy (InItem Spells (Keyword around)) (ListStopsAt around) (u ++ front)
      (behind ++ rest) := by
  obtain ⟨front', behind', heq, hle, hkeyword, hstops⟩ := h
  refine ⟨u ++ front', behind' ++ rest, ?_, ?_, hitem front' behind' heq hkeyword, ?_⟩
  · rw [List.append_assoc, ← List.append_assoc front', heq]
    simp only [List.append_assoc]
  · rw [List.length_append, List.length_append]
    exact Nat.add_le_add_left hle _
  · intro limit bound tail hbound
    obtain ⟨bound, rfl⟩ : ∃ n, bound = n + 1 := ⟨bound - 1, by omega⟩
    have hread := hstops limit u (rest ++ '\x7d' :: tail) hu
    simp only [List.append_assoc] at hread ⊢
    rw [readSiblings, hread]

/-- A list is read up to the first filter that is too deep, past all filters
that are not. -/
theorem InItem.stops
    (hfilter : ∀ {front behind}, Keyword around front behind →
      StopsBy (Keyword around) (StopsAt around) front behind)
    (h : InItem Spells (Keyword around) front behind) :
    StopsBy (InItem Spells (Keyword around)) (ListStopsAt around) front behind := by
  induction h with
  | last hu h hplace hv =>
      exact (hfilter hplace).listed hu fun _ _ heq hkeyword => .last hu (heq ▸ h) hkeyword hv
  | first hu h hplace hv hrest =>
      rw [List.append_assoc]
      refine (hfilter hplace).listed hu fun _ _ heq hkeyword => ?_
      rw [← List.append_assoc]
      exact .first hu (heq ▸ h) hkeyword hv hrest
  | @later u text v front behind d hu h hv hrest ih =>
      by_cases hdeep : around < d.nesting
      · obtain ⟨front', behind', rfl, hkeyword⟩ := h.exists_keyword hdeep
        obtain ⟨ds, _, _, _, hds, -, -, -⟩ := hrest.exists_item
        have hhere : StopsBy (InItem Spells (Keyword around)) (ListStopsAt around) (u ++ front')
            (behind' ++ (v ++ ',' :: (front ++ behind))) := by
          refine (hfilter hkeyword).listed hu fun _ _ heq hkeyword => ?_
          rw [← List.append_assoc]
          exact .first hu (heq ▸ h) hkeyword hv hds
        refine hhere.mono ?_ ?_
        · simp only [List.append_assoc, List.cons_append]
        · simp only [List.length_append, List.length_cons]
          omega
      · obtain ⟨front', behind', heq, hle, hitem, hstops⟩ := ih
        refine ⟨u ++ text ++ v ++ ',' :: front', behind', ?_, ?_, .later hu h hv hitem, ?_⟩
        · rw [List.append_assoc, List.cons_append, heq, List.append_assoc _ (',' :: front),
            List.cons_append]
        · simp only [List.length_append, List.length_cons]
          omega
        · intro limit bound tail hbound
          obtain ⟨bound, rfl⟩ : ∃ n, bound = n + 1 := ⟨bound - 1, by omega⟩
          simp only [List.length_append, List.length_cons] at hbound
          have hread : readFilter limit around
              (u ++ text ++ (v ++ ',' :: (front ++ behind ++ '\x7d' :: tail))) =
              .ok (d, v ++ ',' :: (front ++ behind ++ '\x7d' :: tail)) :=
            readFilter_complete hu ⟨h, Nat.not_lt.mp hdeep⟩
          have hsplit : u ++ text ++ v ++ ',' :: front ++ behind ++ '\x7d' :: tail =
              u ++ text ++ (v ++ ',' :: (front ++ behind ++ '\x7d' :: tail)) := by
            simp only [List.append_assoc, List.cons_append]
          rw [hsplit, readSiblings, hread]
          simp only []
          rw [dropBlanks_append_cons hv (by decide)]
          simp only []
          rw [hstops limit bound tail (by rw [List.length_append]; omega)]
          rfl

/-- Behind the blanks in front of a list stands a name. -/
theorem InItem.starts {place : List Char → List Char → Prop}
    (h : InItem Spells place front behind) :
    ∃ w front' c cs, AllBlank w ∧ front = w ++ front' ∧ InItem Spells place front' behind ∧
      front' ++ behind = c :: cs ∧ isNameChar c = true := by
  cases h with
  | @last u front behind v _ hu h hplace hv =>
      obtain ⟨c, cs, htext, hc⟩ := h.starts
      refine ⟨u, front, c, cs ++ v, hu, rfl, .last AllBlank.nil h hplace hv, ?_, hc⟩
      rw [← List.append_assoc, htext, List.cons_append]
  | @first u front behind v rest _ _ hu h hplace hv hrest =>
      obtain ⟨c, cs, htext, hc⟩ := h.starts
      refine ⟨u, front, c, cs ++ (v ++ ',' :: rest), hu, rfl,
        .first AllBlank.nil h hplace hv hrest, ?_, hc⟩
      rw [List.append_assoc, ← List.append_assoc, htext, List.cons_append]
  | @later u text v front _ _ hu h hv hrest =>
      obtain ⟨c, cs, rfl, hc⟩ := h.starts
      refine ⟨u, c :: cs ++ v ++ ',' :: front, c, cs ++ v ++ ',' :: front ++ behind, hu, ?_,
        .later AllBlank.nil h hv hrest, rfl, hc⟩
      simp only [List.append_assoc]

end

/-- The word of a combinator is read as a name, behind the blanks in front. -/
theorem readName_combines {word u w body rest : List Char}
    {combine : List Definition → Definition} (hword : Combines word combine)
    (hu : AllBlank u) (hw : AllBlank w) :
    let text := word ++ w ++ '\x7b' :: body ++ ['\x7d'] ++ rest
    dropBlanks (u ++ text) = text ∧
      readName (dropBlanks (u ++ text)) = (word, w ++ '\x7b' :: body ++ '\x7d' :: rest) := by
  intro text
  have hdrop : dropBlanks (u ++ text) = text := by
    cases hword with
    | all => exact dropBlanks_append_cons hu (by decide)
    | any => exact dropBlanks_append_cons hu (by decide)
  refine ⟨hdrop, ?_⟩
  rw [hdrop]
  exact readName_word hword.all_isNameChar hw (by decide)

/-- Wherever a combinator's word has so many combinators around it, a reader
with so many levels does not get past it. -/
theorem Keyword.stops {around : Nat} {front behind : List Char}
    (h : Keyword around front behind) :
    StopsBy (Keyword around) (StopsAt around) front behind := by
  induction around generalizing front behind with
  | zero =>
      have hkeyword := h
      obtain ⟨rfl, word, combine, w, body, ds, hword, hw, hbody, rfl⟩ := h
      refine ⟨[], _, rfl, Nat.le_refl _, hkeyword, ?_⟩
      intro limit u rest hu
      obtain ⟨hdrop, hname⟩ := readName_combines hword hu hw
      rw [List.append_assoc, List.nil_append, readFilter_combinator_zero hword hname, hdrop]
  | succ around ih =>
      obtain ⟨word, combine, w, front, behind, hword, hw, hitem, rfl, rfl⟩ := h
      obtain ⟨v, front, c, cs, hv, rfl, hitem, hstart, hc⟩ := hitem.starts
      obtain ⟨front', behind', heq, hle, hitem', hstops⟩ := hitem.stops ih
      have htext : ∀ f b : List Char, word ++ w ++ '\x7b' :: (v ++ f) ++ (b ++ ['\x7d']) =
          word ++ w ++ '\x7b' :: (v ++ (f ++ b)) ++ ['\x7d'] := by
        intro f b
        simp only [List.append_assoc, List.cons_append]
      refine ⟨word ++ w ++ '\x7b' :: (v ++ front'), behind' ++ ['\x7d'], ?_, ?_,
        ⟨word, combine, w, v ++ front', behind', hword, hw, hitem'.blanks_append hv, rfl, rfl⟩, ?_⟩
      · rw [htext, htext, heq]
      · simp only [List.length_append, List.length_cons]
        omega
      · intro limit u rest hu
        have hdrop : dropBlanks (v ++ (front ++ behind)) = c :: cs := by
          rw [hstart, dropBlanks_append_cons hv (not_blank_of_isNameChar hc)]
        obtain ⟨-, hname⟩ := readName_combines hword hu hw
        rw [htext, List.append_assoc, readFilter_combinator_succ hword hname,
          readChildren_eq hw hdrop hc, hdrop, ← hstart, hstops limit _ rest ?_]
        · rw [List.append_assoc]
          rfl
        · simp only [List.length_append, List.length_cons]
          omega

/-! ## Whole texts -/

section

variable {source front behind : List Char} {around limit : Nat} {d : Definition}

theorem KeywordIn.exists_spelledBy (h : KeywordIn source around front behind) :
    ∃ d, SpelledBy d source ∧ around < d.nesting := by
  obtain ⟨u, front, behind, v, hu, hkeyword, hv, rfl, rfl, rfl⟩ := h
  obtain ⟨d, hspells, hdeep⟩ := hkeyword.exists_spells
  refine ⟨d, ?_, hdeep⟩
  simpa only [List.append_assoc] using SpelledBy.intro hu hspells hv

/-- As many combinators enclose one another in a text as its tree is deep. -/
theorem exists_keywordIn_iff (h : SpelledBy d source) :
    (∃ front behind, KeywordIn source around front behind) ↔ around < d.nesting := by
  constructor
  · intro hkeyword
    obtain ⟨_, _, hkeyword⟩ := hkeyword
    obtain ⟨d', hd', hdeep⟩ := hkeyword.exists_spelledBy
    rwa [h.unique hd']
  · intro hdeep
    cases h with
    | @intro u text v hu hspells hv =>
        obtain ⟨front, behind, rfl, hkeyword⟩ := hspells.exists_keyword hdeep
        refine ⟨u ++ front, behind ++ v, u, front, behind, v, hu, hkeyword, hv, rfl, rfl, ?_⟩
        simp only [List.append_assoc]

theorem KeywordIn.exists_stop (h : KeywordIn source limit front behind) :
    ∃ front' behind', KeywordIn source limit front' behind' ∧ front'.length ≤ front.length ∧
      read limit source = .error (tooDeep limit behind') := by
  obtain ⟨u, front, behind, v, hu, hkeyword, hv, rfl, rfl, rfl⟩ := h
  obtain ⟨front', behind', heq, hle, hkeyword', hstops⟩ := hkeyword.stops
  have htext : ∀ f b : List Char, u ++ f ++ (b ++ v) = u ++ (f ++ b ++ v) := by
    intro f b
    simp only [List.append_assoc]
  refine ⟨u ++ front', behind' ++ v,
    ⟨u, front', behind', v, hu, hkeyword', hv, rfl, rfl, ?_⟩, ?_, ?_⟩
  · rw [htext, htext, heq]
  · rw [List.length_append, List.length_append]
    exact Nat.add_le_add_left hle _
  · obtain ⟨d, hspells, -⟩ := hkeyword.exists_spells
    obtain ⟨c, cs, hstart, hc⟩ := hspells.starts
    have hread := hstops limit [] v AllBlank.nil
    rw [htext, read, hstart, List.cons_append,
      dropBlanks_append_cons hu (not_blank_of_isNameChar hc)]
    rw [hstart, List.nil_append, List.cons_append] at hread
    simp only [hread]

/-- Under a limit below the depth of a text, the reader stops at the first word
of a combinator that as many combinators are around. -/
theorem read_of_lt_nesting (h : SpelledBy d source) (hdeep : limit < d.nesting) :
    ∃ front behind, FirstKeyword source limit front behind ∧
      read limit source = .error (tooDeep limit behind) := by
  obtain ⟨_, _, hkeyword⟩ := (exists_keywordIn_iff h).mpr hdeep
  obtain ⟨front, behind, hkeyword, -, hread⟩ := hkeyword.exists_stop
  refine ⟨front, behind, ⟨hkeyword, fun other rest hother => ?_⟩, hread⟩
  obtain ⟨front', behind', hkeyword', hle, hread'⟩ := hother.exists_stop
  have hbehind : behind = behind' := by
    have heq := Except.error.inj (hread.symm.trans hread')
    exact congrArg Mismatch.rest heq
  have hlength : (front ++ behind).length = (front' ++ behind').length := by
    rw [← hkeyword.source_eq, ← hkeyword'.source_eq]
  rw [hbehind, List.length_append, List.length_append] at hlength
  omega

end

/-- A text that can be read has a depth, the number of combinators in it that
enclose one another. From there on every limit gives the same tree. Below it the
reader stops at the first word of a combinator with as many combinators around
it as the limit. And an error that is not about nesting is there under every
larger limit. -/
theorem read_nesting_threshold (source : List Char) :
    (∀ answer, (∃ limit, read limit source = .ok answer) →
      let depth := answer.elim 0 nesting
      (∀ around, (∃ front behind, KeywordIn source around front behind) ↔ around < depth) ∧
      ∀ limit,
        (depth ≤ limit → read limit source = .ok answer) ∧
        (limit < depth → ∃ front behind, FirstKeyword source limit front behind ∧
          read limit source = .error (tooDeep limit behind) ∧
          (tooDeep limit behind).toError source =
            .parse (Text.utf8Length front) s!"at most {limit} nested combinators"
              "deeper nesting")) ∧
      ∀ limit m, read limit source = .error m → m.found ≠ .deeperNesting →
        ∀ limit', limit ≤ limit' → read limit' source = .error m := by
  refine ⟨fun answer hanswer => ?_, fun limit m h hm limit' hle => read_settled hle h hm⟩
  obtain ⟨limit₀, hread₀⟩ := hanswer
  cases answer with
  | none =>
      have hblank := read_eq_none_iff.mp hread₀
      refine ⟨fun around => ⟨fun hkeyword => ?_, fun h => absurd h (Nat.not_lt_zero _)⟩,
        fun limit => ⟨fun _ => read_eq_none_iff.mpr hblank, fun h => absurd h (Nat.not_lt_zero _)⟩⟩
      obtain ⟨_, _, hkeyword⟩ := hkeyword
      obtain ⟨d, hd, -⟩ := hkeyword.exists_spelledBy
      have hread := read_eq_some_iff.mpr ⟨hd, Nat.le_refl _⟩
      rw [read_eq_none_iff.mpr hblank] at hread
      cases hread
  | some d =>
      obtain ⟨hd, -⟩ := read_eq_some_iff.mp hread₀
      refine ⟨fun around => exists_keywordIn_iff hd, fun limit =>
        ⟨fun hle => read_eq_some_iff.mpr ⟨hd, hle⟩, fun hlt => ?_⟩⟩
      obtain ⟨front, behind, hfirst, hread⟩ := read_of_lt_nesting hd hlt
      refine ⟨front, behind, hfirst, hread, ?_⟩
      have hposition : Text.utf8Length source - Text.utf8Length behind =
          Text.utf8Length front := by
        rw [hfirst.keyword.source_eq, Text.utf8Length_append, Nat.add_sub_cancel]
      rw [Mismatch.toError, tooDeep, hposition]
      rfl

/-- Three combinators enclose one another only behind a child that is less deep,
and behind a test that names two types like combinators. -/
theorem read_nesting_threshold_of_later_child :
    let source := "or\x7band\x7bFolder()\x7d,\u3000and\x7bType(and,or),or\x7bFolder()\x7d\x7d\x7d".toList
    ∃ d, (∀ limit, 3 ≤ limit → read limit source = .ok (some d)) ∧
      ∃ front, FirstKeyword source 2 front "or\x7bFolder()\x7d\x7d\x7d".toList ∧
        Mismatch.toError source (tooDeep 2 "or\x7bFolder()\x7d\x7d\x7d".toList) =
          .parse 37 "at most 2 nested combinators" "deeper nesting" := by
  have hread : read 3
      "or\x7band\x7bFolder()\x7d,\u3000and\x7bType(and,or),or\x7bFolder()\x7d\x7d\x7d".toList =
      .ok (some (.any [.all [.folder],
        .all [.type .include ["and".toList, "or".toList], .any [.folder]]])) := by
    decide +kernel
  have hdeep : read 2
      "or\x7band\x7bFolder()\x7d,\u3000and\x7bType(and,or),or\x7bFolder()\x7d\x7d\x7d".toList =
      .error (tooDeep 2 "or\x7bFolder()\x7d\x7d\x7d".toList) := by
    decide +kernel
  intro source
  obtain ⟨-, hlimits⟩ := (read_nesting_threshold source).1 _ ⟨3, hread⟩
  obtain ⟨front, behind, hfirst, hread₂, herror⟩ := (hlimits 2).2 (by decide)
  have hbehind : behind = "or\x7bFolder()\x7d\x7d\x7d".toList :=
    congrArg Mismatch.rest (Except.error.inj (hread₂.symm.trans hdeep))
  subst hbehind
  refine ⟨_, fun limit hle => (hlimits limit).1 hle, front, hfirst, ?_⟩
  decide

end NodeSieve.Definition
