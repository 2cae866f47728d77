import NodeSieve.Error
import NodeSieve.Proofs.PropertyNames
import NodeSieve.Proofs.Splitting
import NodeSieve.Regex.Reader

/-!
# The scanner behind the reader

A pattern is looked at twice. The scanner looks at every character to find the
commas between patterns; the reader takes the pattern apart into pieces. The
scanner knows four things about pieces: that a backslash takes a character
along, that classes nest, that parentheses and braces do, and that the two
brackets right behind a class's opening are special. `Moves` says where a text
leads the scanner and that no comma separates on the way.

For each kind of piece that the reader knows there is one lemma here: if the
reader reads it, then the text that it took leads the scanner back to a
`steady` state. Most of these texts lead nowhere at all because they have no
marks in them; a text in braces leads up and down again.
-/

namespace NodeSieve.Definition

open NodeSieve.Unicode

namespace Scan

/-- Neither escaped nor right behind the opening of a class. -/
def steady (classDepth nesting : Nat) : Scan :=
  ⟨false, classDepth, .none, nesting⟩

end Scan

open Scan

/-- Scanning a text leads from one state to another, and none of its commas
separates. -/
structure Moves (s : Scan) (text : List Char) (s' : Scan) : Prop where
  unsplit : UnsplitFrom s text
  after : s.after text = s'

section

variable {s s' s'' : Scan} {xs ys text : List Char} {c : Char} {depth n : Nat}
  {opening : ClassOpening}

theorem Moves.nil : Moves s [] s :=
  ⟨trivial, rfl⟩

theorem Moves.cons (hc : c ≠ ',' ∨ s.separatesAt = false) (h : Moves (s.next c) text s') :
    Moves s (c :: text) s' := by
  refine ⟨⟨?_, h.unsplit⟩, h.after⟩
  rintro ⟨rfl, hsep⟩
  rcases hc with hc | hc
  · exact hc rfl
  · rw [hc] at hsep
    cases hsep

theorem Moves.append (h : Moves s xs s') (h' : Moves s' ys s'') : Moves s (xs ++ ys) s'' := by
  refine ⟨unsplitFrom_append.mpr ⟨h.unsplit, ?_⟩, ?_⟩
  · rw [h.after]
    exact h'.unsplit
  · rw [Scan.after_append, h.after, h'.after]

/-! ## What leaves a steady state as it is -/

theorem next_unescaped (hs : s.escaped = false) (hc : c ≠ '\\') :
    s.next c = if s.classDepth = 0 then s.nextOutside c else s.nextInClass c := by
  rw [next, hs, if_neg Bool.false_ne_true, if_neg hc]

theorem next_backslash (hs : s.escaped = false) :
    s.next '\\' = ⟨true, s.classDepth, .none, s.nesting⟩ := by
  rw [next, hs, if_neg Bool.false_ne_true, if_pos rfl]

theorem next_of_unmarked (hc : isMark c = false) : (steady depth n).next c = steady depth n := by
  have hne : ∀ {d : Char}, isMark d = true → c ≠ d := by
    rintro d hd rfl
    rw [hc] at hd
    cases hd
  rw [next_unescaped rfl (hne (by decide))]
  split
  · rw [nextOutside.eq_def]
    split
    · exact absurd rfl (hne (by decide))
    · exact absurd rfl (hne (by decide))
    · exact absurd rfl (hne (by decide))
    · exact absurd rfl (hne (by decide))
    · exact absurd rfl (hne (by decide))
    · rfl
  · rw [nextInClass.eq_def]
    split
    · exact absurd rfl (hne (by decide))
    · rfl
    · exact absurd rfl (hne (by decide))
    · rfl

theorem moves_unmarked (h : Unmarked text) :
    Moves (steady depth n) text (steady depth n) := by
  induction text with
  | nil => exact .nil
  | cons c cs ih =>
      obtain ⟨hc, hcs⟩ := List.forall_mem_cons.mp h
      refine .cons (.inl ?_) ?_
      · rintro rfl
        exact absurd hc (by decide)
      · rw [next_of_unmarked hc]
        exact ih hcs

/-- Inside of anything a comma is as good as any other character. -/
theorem moves_listed (hinside : 0 < depth ∨ 0 < n)
    (h : ∀ c ∈ text, isMark c = false ∨ c = ',') :
    Moves (steady depth n) text (steady depth n) := by
  have hsep : (steady depth n).separatesAt = false := by
    simp only [steady, separatesAt]
    rcases hinside with h | h <;> simp [Nat.ne_of_gt h]
  induction text with
  | nil => exact .nil
  | cons c cs ih =>
      obtain ⟨hc, hcs⟩ := List.forall_mem_cons.mp h
      refine .cons (.inr hsep) ?_
      rcases hc with hc | rfl
      · rw [next_of_unmarked hc]
        exact ih hcs
      · have hcomma : (steady depth n).next ',' = steady depth n := by
          rw [next_unescaped rfl (by decide)]
          split <;> rfl
        rw [hcomma]
        exact ih hcs

theorem moves_braces (h : ∀ c ∈ text, isMark c = false ∨ c = ',') :
    Moves (steady depth n) ('\x7b' :: text ++ ['\x7d']) (steady depth n) := by
  rw [List.cons_append]
  refine .cons (.inl (by decide)) ?_
  cases depth with
  | zero =>
      have hopen : (steady 0 n).next '\x7b' = steady 0 (n + 1) := rfl
      have hclose : (steady 0 (n + 1)).next '\x7d' = steady 0 n := rfl
      rw [hopen]
      refine (moves_listed (.inr (Nat.succ_pos n)) h).append (.cons (.inl (by decide)) ?_)
      rw [hclose]
      exact .nil
  | succ depth =>
      have hopen : (steady (depth + 1) n).next '\x7b' = steady (depth + 1) n := rfl
      have hclose : (steady (depth + 1) n).next '\x7d' = steady (depth + 1) n := rfl
      rw [hopen]
      refine (moves_listed (.inl (Nat.succ_pos depth)) h).append (.cons (.inl (by decide)) ?_)
      rw [hclose]
      exact .nil

/-- What can follow an escaped character and belongs to its escape: digits or
a letter, or a text in braces. -/
inductive EscapeTail : List Char → Prop
  | plain {text : List Char} (h : Unmarked text) : EscapeTail text
  | braced {text : List Char} (h : Unmarked text) : EscapeTail ('\x7b' :: text ++ ['\x7d'])

theorem moves_escape (h : EscapeTail text) :
    Moves ⟨false, depth, opening, n⟩ ('\\' :: c :: text) (steady depth n) := by
  have hopen : (⟨false, depth, opening, n⟩ : Scan).next '\\' = ⟨true, depth, .none, n⟩ :=
    next_backslash rfl
  refine .cons (.inl (by decide)) ?_
  rw [hopen]
  refine .cons (.inr rfl) ?_
  have hbehind : (⟨true, depth, .none, n⟩ : Scan).next c = steady depth n := rfl
  rw [hbehind]
  cases h with
  | plain h => exact moves_unmarked h
  | braced h => exact moves_braces fun c hc => .inl (h c hc)

end

end NodeSieve.Definition

namespace NodeSieve.Regex

open NodeSieve.Definition NodeSieve.Definition.Scan NodeSieve.Text NodeSieve.Unicode

/-! ## Escapes -/

theorem unmarked_of_digitValue? {radix d : Nat} {c : Char} (h : digitValue? radix c = some d) :
    isMark c = false :=
  isMark_eq_false_of (fun c => (digitValue? radix c).isSome) rfl (by rw [h]; rfl)

theorem unmarked_of_readHexDigits {count point value : Nat} {cs rest : List Char}
    (h : readHexDigits false count point cs = .ok (value, rest)) :
    ∃ digits, cs = digits ++ rest ∧ Unmarked digits := by
  induction count generalizing point cs with
  | zero =>
      cases h
      exact ⟨[], rfl, List.forall_mem_nil _⟩
  | succ count ih =>
      cases cs with
      | nil => cases h
      | cons c cs =>
          rw [readHexDigits] at h
          split at h
          · cases h
          · next d hd =>
              obtain ⟨digits, hcs, hdigits⟩ := ih h
              refine ⟨c :: digits, congrArg (c :: ·) hcs, ?_⟩
              exact List.forall_mem_cons.mpr ⟨unmarked_of_digitValue? hd, hdigits⟩

theorem unmarked_of_readHexBraced {point? : Option Nat} {value : Nat} {cs rest : List Char}
    (h : readHexBraced false point? cs = .ok (value, rest)) :
    ∃ digits, cs = digits ++ '\x7d' :: rest ∧ Unmarked digits := by
  induction cs generalizing point? with
  | nil =>
      rw [readHexBraced] at h
      cases h
  | cons c cs ih =>
      rw [readHexBraced.eq_def] at h
      simp only [] at h
      split at h
      · next hc =>
          subst hc
          split at h
          · cases h
          · cases h
            exact ⟨[], rfl, List.forall_mem_nil _⟩
      · split at h
        · cases h
        · next d hd =>
            obtain ⟨digits, hcs, hdigits⟩ := ih h
            refine ⟨c :: digits, congrArg (c :: ·) hcs, ?_⟩
            exact List.forall_mem_cons.mpr ⟨unmarked_of_digitValue? hd, hdigits⟩

theorem escapeTail_of_readHex {count : Nat} {cs rest : List Char} {p : Primitive}
    (h : readHex false count cs = .ok (p, rest)) :
    ∃ text, cs = text ++ rest ∧ EscapeTail text := by
  rw [readHex, skipTrivia_false] at h
  split at h
  · cases h
  · next c tail =>
      split at h
      · next hc =>
          subst hc
          obtain ⟨⟨point, behind⟩, hread, hpoint⟩ := bind_eq_ok_iff.mp h
          obtain ⟨digits, htail, hdigits⟩ := unmarked_of_readHexBraced hread
          obtain rfl : rest = behind := literalOfPoint_rest hpoint
          refine ⟨'\x7b' :: digits ++ ['\x7d'], ?_, .braced hdigits⟩
          rw [skipTrivia_false] at htail
          simp only [htail, List.append_assoc, List.cons_append, List.nil_append]
      · obtain ⟨⟨point, behind⟩, hread, hpoint⟩ := bind_eq_ok_iff.mp h
        obtain ⟨digits, hcs, hdigits⟩ := unmarked_of_readHexDigits hread
        obtain rfl : rest = behind := literalOfPoint_rest hpoint
        exact ⟨digits, hcs, .plain hdigits⟩

theorem eq_of_readBraced {read name cs rest : List Char}
    (h : readBraced false read cs = .ok (name, rest)) :
    ∃ inner, cs = inner ++ '\x7d' :: rest ∧ name = read.reverse ++ inner := by
  induction cs generalizing read with
  | nil =>
      rw [readBraced] at h
      cases h
  | cons c cs ih =>
      rw [readBraced] at h
      split at h
      · next hc =>
          cases h
          exact ⟨[], by rw [hc]; rfl, (List.append_nil _).symm⟩
      · obtain ⟨inner, hcs, rfl⟩ := ih h
        refine ⟨c :: inner, congrArg (c :: ·) hcs, ?_⟩
        rw [List.reverse_cons, List.append_assoc, List.singleton_append]

theorem eq_of_splitAtMark? {mark cs before behind : List Char}
    (h : splitAtMark? mark cs = some (before, behind)) : cs = before ++ mark ++ behind := by
  induction cs generalizing before with
  | nil =>
      rw [splitAtMark?] at h
      split at h
      · next hmark =>
          cases h
          rw [List.isEmpty_iff.mp hmark]
          rfl
      · cases h
  | cons c cs ih =>
      rw [splitAtMark?] at h
      split at h
      · next hprefix =>
          obtain ⟨rfl, rfl⟩ := Prod.mk.inj (Option.some.inj h)
          rw [List.isPrefixOf_iff_prefix] at hprefix
          obtain ⟨tail, htail⟩ := hprefix
          rw [List.nil_append, ← htail, List.drop_left]
      · obtain ⟨⟨before', behind'⟩, hsplit, heq⟩ := Option.map_eq_some_iff.mp h
        obtain ⟨rfl, rfl⟩ := Prod.mk.inj heq
        rw [ih hsplit]
        rfl

/-- A query is made of the text in the braces, apart from what stands between
its two halves. -/
theorem unmarked_of_propertyQuery {name : List Char} {excluded : Bool} {query : PropertyQuery}
    (h : propertyQuery name = (excluded, query))
    (htexts : ∀ text ∈ query.texts, Unmarked text.toList) : Unmarked name := by
  have hvalued : ∀ {mark before behind : List Char}, Unmarked mark →
      splitAtMark? mark name = some (before, behind) →
      query = .valued (String.ofList before) (String.ofList behind) → Unmarked name := by
    rintro mark before behind hmark hsplit rfl
    obtain ⟨hbefore, hbehind⟩ := List.forall_mem_cons.mp htexts
    have hbehind := hbehind _ (List.mem_singleton_self _)
    rw [String.toList_ofList] at hbefore hbehind
    rw [eq_of_splitAtMark? hsplit]
    intro c hc
    rcases List.mem_append.mp hc with hc | hc
    · rcases List.mem_append.mp hc with hc | hc
      · exact hbefore c hc
      · exact hmark c hc
    · exact hbehind c hc
  rw [propertyQuery] at h
  split at h
  · next hsplit => exact hvalued (by decide) hsplit (Prod.mk.inj h).2.symm
  · split at h
    · next hsplit => exact hvalued (by decide) hsplit (Prod.mk.inj h).2.symm
    · split at h
      · next hsplit => exact hvalued (by decide) hsplit (Prod.mk.inj h).2.symm
      · obtain ⟨-, rfl⟩ := Prod.mk.inj h
        have hname := htexts _ (List.mem_singleton_self _)
        rwa [String.toList_ofList] at hname

/-- Whether a class of a property is one that exists. -/
def Primitive.Found (p : Primitive) : Prop :=
  ∀ negated query, p = .property negated query → ∃ set, query.resolve = .ok set

theorem escapeTail_of_readProperty {negated : Bool} {cs rest : List Char} {p : Primitive}
    (h : readProperty false negated cs = .ok (p, rest)) (hp : p.Found) :
    ∃ text, cs = text ++ rest ∧ EscapeTail text := by
  rw [readProperty, skipTrivia_false] at h
  split at h
  · cases h
  · next c tail =>
      split at h
      · next hc =>
          subst hc
          split at h
          · cases h
          · next name behind hread =>
              split at h
              next excluded query hquery =>
                cases h
                obtain ⟨set, hset⟩ := hp _ _ rfl
                obtain ⟨inner, htail, hinner⟩ := eq_of_readBraced hread
                have hname := unmarked_of_propertyQuery hquery (unmarked_of_resolve hset)
                rw [hinner] at hname
                refine ⟨'\x7b' :: inner ++ ['\x7d'], ?_, .braced hname⟩
                rw [skipTrivia_false] at htail
                simp only [htail, List.append_assoc, List.cons_append, List.nil_append]
      · split at h
        · cases h
        · cases h
          obtain ⟨set, hset⟩ := hp _ _ rfl
          have hc := unmarked_of_resolve hset _ (List.mem_singleton_self _)
          rw [String.toList_singleton] at hc
          exact ⟨[c], rfl, .plain hc⟩

theorem unmarked_of_readBoundaryName {read name cs rest : List Char}
    (h : readBoundaryName false read cs = (name, rest)) :
    ∃ text, cs = text ++ rest ∧ Unmarked text := by
  induction cs generalizing read with
  | nil =>
      rw [readBoundaryName] at h
      cases h
      exact ⟨[], rfl, List.forall_mem_nil _⟩
  | cons c cs ih =>
      rw [readBoundaryName] at h
      split at h
      · next hc =>
          obtain ⟨text, hcs, htext⟩ := ih h
          refine ⟨c :: text, congrArg (c :: ·) hcs, ?_⟩
          exact List.forall_mem_cons.mpr ⟨isMark_eq_false_of isBoundaryNameChar rfl hc, htext⟩
      · cases h
        exact ⟨[], rfl, List.forall_mem_nil _⟩

theorem escapeTail_of_readWordBoundary {cs rest : List Char} {p : Primitive}
    (h : readWordBoundary false cs = .ok (p, rest)) :
    ∃ text, cs = text ++ rest ∧ EscapeTail text := by
  have hnone : EscapeTail [] := .plain (List.forall_mem_nil _)
  rw [readWordBoundary.eq_def] at h
  split at h
  · next tail =>
      rw [skipTrivia_false] at h
      split at h
      · cases h
      · split at h
        · cases h
          exact ⟨[], rfl, hnone⟩
        · split at h
          · next name behind hread =>
              obtain ⟨text, htext, hname⟩ := unmarked_of_readBoundaryName hread
              split at h
              · cases h
                refine ⟨'\x7b' :: text ++ ['\x7d'], ?_, .braced hname⟩
                simp only [htext, List.append_assoc, List.cons_append, List.nil_append]
              · cases h
          · cases h
  · cases h
    exact ⟨[], rfl, hnone⟩

theorem escapeTail_of_readEscape {cs rest : List Char} {p : Primitive}
    (h : readEscape false cs = .ok (p, rest)) (hp : p.Found) :
    ∃ c text, cs = c :: text ++ rest ∧ EscapeTail text := by
  cases cs with
  | nil => cases h
  | cons c cs =>
      suffices htail : ∃ text, cs = text ++ rest ∧ EscapeTail text by
        obtain ⟨text, rfl, htext⟩ := htail
        exact ⟨c, text, rfl, htext⟩
      have hnone : ∀ {p' : Primitive}, (.ok (p', cs) : Except Error _) = .ok (p, rest) →
          ∃ text, cs = text ++ rest ∧ EscapeTail text := by
        intro p' h
        cases h
        exact ⟨[], rfl, .plain (List.forall_mem_nil _)⟩
      rw [readEscape.eq_def] at h
      simp only [] at h
      split at h
      · cases h
      · split at h
        case h_1 | h_2 | h_3 => exact escapeTail_of_readHex h
        case h_4 | h_5 => exact escapeTail_of_readProperty h hp
        case h_14 => exact escapeTail_of_readWordBoundary h
        case h_18 =>
          split at h
          · exact hnone h
          · split at h
            · exact hnone h
            · cases h
        all_goals exact hnone h

/-! ## Repetitions -/

theorem unmarked_of_allBlank {text : List Char} (h : AllBlank text) : Unmarked text :=
  fun c hc => isMark_eq_false_of isBlank rfl (h c hc)

theorem unmarked_of_readDigits {read digits cs rest : List Char}
    (h : readDigits false read cs = (digits, rest)) :
    ∃ text, cs = text ++ rest ∧ Unmarked text := by
  induction cs generalizing read with
  | nil =>
      rw [readDigits] at h
      cases h
      exact ⟨[], rfl, List.forall_mem_nil _⟩
  | cons c cs ih =>
      rw [readDigits] at h
      split at h
      · next hc =>
          obtain ⟨text, hcs, htext⟩ := ih h
          refine ⟨c :: text, congrArg (c :: ·) hcs, ?_⟩
          exact List.forall_mem_cons.mpr ⟨isMark_eq_false_of Char.isDigit rfl hc, htext⟩
      · cases h
        exact ⟨[], rfl, List.forall_mem_nil _⟩

theorem unmarked_of_readCount {count : Except Error Nat} {cs rest : List Char}
    (h : readCount false cs = (count, rest)) : ∃ text, cs = text ++ rest ∧ Unmarked text := by
  rw [readCount] at h
  split at h
  next digits behind hread =>
    cases h
    obtain ⟨u, hu, hcs⟩ := exists_eq_append_dropBlanks cs
    obtain ⟨text, hdrop, htext⟩ := unmarked_of_readDigits hread
    obtain ⟨v, hv, hbehind⟩ := exists_eq_append_dropBlanks behind
    refine ⟨u ++ text ++ v, ?_,
      ((unmarked_of_allBlank hu).append htext).append (unmarked_of_allBlank hv)⟩
    rw [hcs, hdrop]
    simp only [List.append_assoc, ← hbehind]

/-- Counts and the comma between them. -/
def Counts (text : List Char) : Prop :=
  ∀ c ∈ text, isMark c = false ∨ c = ','

theorem counts_of_unmarked {text : List Char} (h : Unmarked text) : Counts text :=
  fun c hc => .inl (h c hc)

theorem counts_of_comma {xs ys : List Char} (hx : Unmarked xs) (hy : Unmarked ys) :
    Counts (xs ++ ',' :: ys) := by
  intro c hc
  rcases List.mem_append.mp hc with hc | hc
  · exact .inl (hx c hc)
  · rcases List.mem_cons.mp hc with hc | hc
    · exact .inr hc
    · exact .inl (hy c hc)

theorem counts_of_readBounds {cs rest : List Char} {bounds : Bounds}
    (h : readBounds false cs = .ok (bounds, rest)) : ∃ text, cs = text ++ rest ∧ Counts text := by
  rw [readBounds, skipTrivia_false] at h
  split at h
  · cases h
  · next c tail =>
      split at h
      · cases h
      · next least behind hread =>
          obtain ⟨xs, hcs, hxs⟩ := unmarked_of_readCount hread
          rw [skipTrivia_false] at h
          have hcomma : ∀ ys : List Char, behind = ys ++ rest → Unmarked ys →
              ∃ text, c :: tail = text ++ rest ∧ Counts text := by
            rintro ys rfl hys
            refine ⟨xs ++ ',' :: ys, ?_, counts_of_comma hxs hys⟩
            rw [hcs, List.append_assoc, List.cons_append]
          split at h
          · cases h
          · exact hcomma [] (mapBounds_rest h).symm (List.forall_mem_nil _)
          · split at h
            · cases h
            · split at h
              · cases h
              · next hcount =>
                  cases h
                  obtain ⟨ys, hbehind, hys⟩ := unmarked_of_readCount hcount
                  exact hcomma ys hbehind hys
      · next count behind _ _ hread =>
          obtain ⟨xs, hcs, hxs⟩ := unmarked_of_readCount hread
          obtain rfl := mapBounds_rest h
          exact ⟨xs, hcs, counts_of_unmarked hxs⟩

theorem eq_of_readLazyMark {bounds : Bounds} {quantifier : Quantifier} {cs rest : List Char}
    (h : readLazyMark bounds cs = (quantifier, rest)) :
    ∃ text, cs = text ++ rest ∧ Unmarked text := by
  rw [readLazyMark.eq_def] at h
  split at h
  · cases h
    exact ⟨['?'], rfl, by decide⟩
  · cases h
    exact ⟨[], rfl, by decide⟩

theorem counts_of_readCounted {cs rest : List Char} {quantifier : Quantifier}
    (h : readCounted false cs = .ok (quantifier, rest)) :
    ∃ text mark, cs = text ++ '\x7d' :: mark ++ rest ∧ Counts text ∧ Unmarked mark := by
  rw [readCounted] at h
  split at h
  · cases h
  · next bounds tail hbounds =>
      obtain ⟨text, rfl, htext⟩ := counts_of_readBounds hbounds
      split at h
      · obtain ⟨mark, htail, hmark⟩ := eq_of_readLazyMark (Except.ok.inj h)
        rw [skipTrivia_false] at htail
        exact ⟨text, mark, by rw [htail, List.append_assoc, List.cons_append], htext, hmark⟩
      · cases h
  · cases h

/-! ## Groups -/

theorem eq_of_readGroupName {read name cs rest : List Char}
    (h : readGroupName read cs = .ok (name, rest)) :
    ∃ inner, cs = inner ++ '>' :: rest ∧ name = read.reverse ++ inner := by
  induction cs generalizing read with
  | nil => cases h
  | cons c cs ih =>
      rw [readGroupName] at h
      split at h
      · next hc =>
          split at h
          · cases h
          · cases h
            exact ⟨[], by rw [hc]; rfl, (List.append_nil _).symm⟩
      · split at h
        · obtain ⟨inner, hcs, rfl⟩ := ih h
          refine ⟨c :: inner, congrArg (c :: ·) hcs, ?_⟩
          rw [List.reverse_cons, List.append_assoc, List.singleton_append]
        · cases h

theorem unmarked_of_push {run run' : FlagRun} {c : Char} (h : run.push c = .ok run') :
    isMark c = false :=
  isMark_eq_false_of (fun c => (run.push c).isOk) rfl (by rw [h]; rfl)

/-- What ends a run of flags. -/
def GroupStart.mark : GroupStart → Char
  | .directive _ => ')'
  | _ => ':'

theorem unmarked_of_readFlags {run : FlagRun} {start : GroupStart} {cs rest : List Char}
    (h : readFlags run cs = .ok (start, rest)) :
    ∃ text, cs = text ++ start.mark :: rest ∧ Unmarked text := by
  induction cs generalizing run with
  | nil => cases h
  | cons c cs ih =>
      rw [readFlags] at h
      split at h
      · next hend =>
          split at h
          · cases h
          · split at h
            · next hc =>
                cases h
                exact ⟨[], by rw [hc]; rfl, List.forall_mem_nil _⟩
            · next hc =>
                split at h
                · cases h
                · cases h
                  exact ⟨[], by rw [hend.resolve_left hc]; rfl, List.forall_mem_nil _⟩
      · split at h
        · cases h
        · next run' hpush =>
            obtain ⟨text, hcs, htext⟩ := ih h
            refine ⟨c :: text, congrArg (c :: ·) hcs, ?_⟩
            exact List.forall_mem_cons.mpr ⟨unmarked_of_push hpush, htext⟩

/-- Whether a group or directive leaves verbose mode off and bears no name
with a bracket in it. -/
def GroupStart.Plain : GroupStart → Prop
  | .directive change | .flagged change => .verbose ∉ change.on
  | .capture => True
  | .named name => Unmarked name

/-- Behind its parenthesis a group starts with a text without marks; a
directive ends with a parenthesis of its own. -/
theorem unmarked_of_readGroupStart {start : GroupStart} {cs rest : List Char}
    (h : readGroupStart false cs = .ok (start, rest)) (hstart : start.Plain) :
    ∃ text, Unmarked text ∧ (cs = text ++ rest ∧ (∀ change, start ≠ .directive change) ∨
      cs = text ++ ')' :: rest ∧ ∃ change, start = .directive change) := by
  have named (text : List Char) {tail : List Char} (htext : Unmarked text)
      (hn : ((readGroupName [] tail).map fun read => (GroupStart.named read.1, read.2)) =
        .ok (start, rest)) :
      ∃ text', Unmarked text' ∧ (text ++ tail = text' ++ rest ∧
        ∀ change, start ≠ .directive change) := by
    obtain ⟨⟨name, behind⟩, hread, heq⟩ := map_eq_ok_iff.mp hn
    obtain ⟨rfl, rfl⟩ := Prod.mk.inj heq
    obtain ⟨inner, rfl, hname⟩ := eq_of_readGroupName hread
    have hinner : Unmarked inner := by
      rw [hname] at hstart
      exact hstart
    refine ⟨text ++ (inner ++ ['>']), htext.append (hinner.append (by decide)), ?_, by simp⟩
    simp only [List.append_assoc, List.cons_append, List.nil_append]
  rw [readGroupStart, skipTrivia_false] at h
  simp only [] at h
  split at h
  case h_1 | h_2 | h_3 | h_4 | h_7 => cases h
  case h_5 tail =>
    obtain ⟨text, htext, hcs⟩ := named ['?', 'P', '<'] (by decide) h
    exact ⟨text, htext, .inl hcs⟩
  case h_6 tail =>
    obtain ⟨text, htext, hcs⟩ := named ['?', '<'] (by decide) h
    exact ⟨text, htext, .inl hcs⟩
  case h_8 tail _ _ =>
    obtain ⟨text, htail, htext⟩ := unmarked_of_readFlags h
    have hquestion : Unmarked ('?' :: text) := List.forall_mem_cons.mpr ⟨by decide, htext⟩
    cases start with
    | directive change =>
        exact ⟨'?' :: text, hquestion, .inr ⟨congrArg ('?' :: ·) htail, change, rfl⟩⟩
    | flagged | capture | named =>
        refine ⟨'?' :: text ++ [':'], hquestion.append (by decide), .inl ⟨?_, by simp⟩⟩
        rw [htail, List.append_assoc]
        rfl
  case h_9 =>
    cases h
    exact ⟨[], List.forall_mem_nil _, .inl ⟨rfl, by simp⟩⟩

end NodeSieve.Regex
