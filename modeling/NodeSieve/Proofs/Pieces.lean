import NodeSieve.Proofs.ClassTracking
import NodeSieve.Regex.Compile

/-!
# The scanner behind a whole pattern

Reading a pattern piece by piece, the scanner is as deep in parentheses as the
reader has groups open. This holds for `Plain` pieces. A closing brace that
stands for itself is not plain, since the scanner takes it for the end of
something; nor is a switch to verbose mode, which makes comments of what the
scanner goes on counting; nor a name with a bracket in it.

A property class is read before it is known whether its name is one, and only
names that exist are free of brackets. So the lemmas ask that the pattern
means something as a whole, and the first half of this file carries that down
to the pieces.
-/

namespace NodeSieve.Regex

open NodeSieve.Definition NodeSieve.Definition.Scan NodeSieve.Unicode

/-! ## The parts of an expression -/

/-- The parts of an expression, at any depth. -/
inductive Ast.Has (whole : Ast) : Ast → Prop
  | self : Has whole whole
  | repetition {least : Nat} {most : Option Nat} {lazy : Bool} {a : Ast}
      (h : Has whole (.repetition least most lazy a)) : Has whole a
  | group {kind : GroupKind} {a : Ast} (h : Has whole (.group kind a)) : Has whole a
  | alternation {branches : List Ast} {a : Ast} (h : Has whole (.alternation branches))
      (ha : a ∈ branches) : Has whole a
  | concat {parts : List Ast} {a : Ast} (h : Has whole (.concat parts)) (ha : a ∈ parts) :
      Has whole a

/-- Whether an expression means something under some flags. -/
def Ast.Resolves (a : Ast) : Prop :=
  ∃ modes read, a.resolve modes = .ok read

theorem resolves_of_resolveAll {modes : Modes} {as : List Ast} {read : List Expr × Modes}
    (h : Ast.resolveAll modes as = .ok read) : ∀ a ∈ as, a.Resolves := by
  induction as generalizing modes read with
  | nil => exact List.forall_mem_nil _
  | cons a as ih =>
      rw [Ast.resolveAll] at h
      split at h
      · cases h
      · next r modes' ha =>
          obtain ⟨rest, hrest, -⟩ := map_eq_ok_iff.mp h
          exact List.forall_mem_cons.mpr ⟨⟨modes, _, ha⟩, ih hrest⟩

/-- The parts of an expression that means something mean something. -/
theorem Ast.Has.resolves {whole a : Ast} (h : whole.Has a) (hwhole : whole.Resolves) :
    a.Resolves := by
  induction h with
  | self => exact hwhole
  | repetition _ ih =>
      obtain ⟨modes, read, hread⟩ := ih
      rw [Ast.resolve] at hread
      obtain ⟨body, hbody, -⟩ := map_eq_ok_iff.mp hread
      exact ⟨modes, body, hbody⟩
  | @group kind _ _ ih =>
      obtain ⟨modes, read, hread⟩ := ih
      rw [Ast.resolve] at hread
      obtain ⟨body, hbody, -⟩ := map_eq_ok_iff.mp hread
      exact ⟨modes.inside kind, body, hbody⟩
  | alternation _ ha ih | concat _ ha ih =>
      obtain ⟨modes, read, hread⟩ := ih
      rw [Ast.resolve] at hread
      obtain ⟨all, hall, -⟩ := map_eq_ok_iff.mp hread
      exact resolves_of_resolveAll hall _ ha

theorem found_of_propertyClass {modes : Modes} {negated : Bool} {query : PropertyQuery}
    {set : CharSet} (h : modes.propertyClass negated query = .ok set) :
    ∃ set, query.resolve = .ok set := by
  rw [Modes.propertyClass] at h
  split at h
  · cases h
  · split at h
    · cases h
    · cases h
    · next set hset => exact ⟨set, hset⟩

theorem found_of_toAst {p : Primitive} (h : p.toAst.Resolves) : p.Found := by
  rintro negated query rfl
  obtain ⟨modes, read, hread⟩ := h
  rw [Primitive.toAst, Ast.resolve, exprOfClass] at hread
  obtain ⟨set, hset, -⟩ := map_eq_ok_iff.mp hread
  exact found_of_propertyClass hset

theorem mem_resolveAll {modes : Modes} {items : List ClassItem} {set : CharSet}
    (h : ClassItem.resolveAll modes items = .ok set) :
    ∀ i ∈ items, ∃ s, i.resolve modes = .ok s := by
  induction items generalizing set with
  | nil => exact List.forall_mem_nil _
  | cons i is ih =>
      rw [ClassItem.resolveAll] at h
      split at h
      · cases h
      · next s hs =>
          obtain ⟨rest, hrest, -⟩ := map_eq_ok_iff.mp h
          exact List.forall_mem_cons.mpr ⟨⟨s, hs⟩, ih hrest⟩

theorem ClassSet.Has.resolves {set : ClassSet} {i : ClassItem} (h : set.Has i) {modes : Modes}
    {s : CharSet} (hset : set.resolve modes = .ok s) : ∃ s, i.resolve modes = .ok s := by
  induction h generalizing s with
  | item i => exact ⟨s, hset⟩
  | left _ ih =>
      rw [ClassSet.resolve] at hset
      split at hset
      · cases hset
      · next s' hleft => exact ih hleft
  | right _ ih =>
      rw [ClassSet.resolve] at hset
      split at hset
      · cases hset
      · obtain ⟨s', hright, -⟩ := map_eq_ok_iff.mp hset
        exact ih hright
  | union _ hi ih =>
      obtain ⟨s', hunion⟩ := ih hset
      rw [ClassItem.resolve] at hunion
      exact mem_resolveAll hunion _ hi
  | bracketed _ _ ih ih' =>
      obtain ⟨s', hbracketed⟩ := ih hset
      rw [ClassItem.resolve] at hbracketed
      split at hbracketed
      · cases hbracketed
      · next s'' hinner => exact ih' hinner

theorem found_of_bracketed {negated : Bool} {set : ClassSet} {i : ClassItem}
    (h : (Ast.bracketed negated set).Resolves) (hi : set.Has i) (excluded : Bool)
    (query : PropertyQuery) (hquery : i = .property excluded query) :
    ∃ s, query.resolve = .ok s := by
  subst hquery
  obtain ⟨modes, read, hread⟩ := h
  rw [Ast.resolve] at hread
  split at hread
  · cases hread
  · next s hset =>
      obtain ⟨s', hproperty⟩ := hi.resolves hset
      rw [ClassItem.resolve] at hproperty
      exact found_of_propertyClass hproperty

/-! ## What has been read is part of the whole -/

structure Frame.Within (whole : Ast) (frame : Frame) : Prop where
  parts : ∀ a ∈ frame.parts, whole.Has a
  branches : ∀ a ∈ frame.branches, whole.Has a

theorem has_of_ofParts {whole : Ast} {parts : List Ast} (h : whole.Has (.ofParts parts)) :
    ∀ a ∈ parts, whole.Has a := by
  cases parts with
  | nil => exact List.forall_mem_nil _
  | cons a as =>
      cases as with
      | nil => exact List.forall_mem_singleton.mpr h
      | cons b bs => exact fun c hc => .concat h hc

theorem has_of_ofBranches {whole : Ast} {branches : List Ast}
    (h : whole.Has (.ofBranches branches)) : ∀ a ∈ branches, whole.Has a := by
  cases branches with
  | nil => exact List.forall_mem_nil _
  | cons a as =>
      cases as with
      | nil => exact List.forall_mem_singleton.mpr h
      | cons b bs => exact fun c hc => .alternation h hc

theorem Frame.within_of_ast {whole : Ast} {frame : Frame} (h : whole.Has frame.ast) :
    frame.Within whole := by
  have hall := has_of_ofBranches h
  refine ⟨fun a ha => ?_, fun a ha => ?_⟩
  · have hparts := hall _ (List.mem_append_right _ (List.mem_singleton_self _))
    exact has_of_ofParts hparts a (List.mem_reverse.mpr ha)
  · exact hall a (List.mem_append_left _ (List.mem_reverse.mpr ha))

theorem Frame.Within.of_push {whole part : Ast} {frame : Frame}
    (h : (frame.push part).Within whole) : frame.Within whole ∧ whole.Has part :=
  ⟨⟨fun a ha => h.parts a (List.mem_cons_of_mem part ha), h.branches⟩,
    h.parts part (List.mem_cons_self ..)⟩

theorem Frame.Within.of_nextBranch {whole : Ast} {frame : Frame}
    (h : frame.nextBranch.Within whole) : frame.Within whole := by
  have hbranch := h.branches _ (List.mem_cons_self ..)
  refine ⟨fun a ha => has_of_ofParts hbranch a (List.mem_reverse.mpr ha), fun a ha => ?_⟩
  exact h.branches a (List.mem_cons_of_mem _ ha)

theorem Frame.Within.of_repeatLast {whole : Ast} {frame : Frame} {quantifier : Quantifier}
    (h : (frame.repeatLast quantifier).Within whole) : frame.Within whole := by
  obtain ⟨kind, verbose, branches, parts⟩ := frame
  cases parts with
  | nil => exact h
  | cons part parts =>
      refine ⟨List.forall_mem_cons.mpr ⟨?_, ?_⟩, h.branches⟩
      · exact .repetition (h.parts _ (List.mem_cons_self ..))
      · exact fun a ha => h.parts a (List.mem_cons_of_mem _ ha)

def ReadState.Within (whole : Ast) (state : ReadState) : Prop :=
  state.frame.Within whole ∧ ∀ frame ∈ state.outer, frame.Within whole

theorem within_of_add {whole : Ast} {state state' : ReadState} {token : Token}
    (h : state.add token = .ok state') (hwithin : state'.Within whole) :
    state.Within whole ∧ ∀ a, token = .part a → whole.Has a := by
  obtain ⟨hframe, houter⟩ := hwithin
  cases token with
  | part a =>
      cases h
      refine ⟨⟨hframe.of_push.1, houter⟩, ?_⟩
      rintro b hb
      cases hb
      exact hframe.of_push.2
  | repeated quantifier =>
      cases h
      exact ⟨⟨hframe.of_repeatLast, houter⟩, by simp⟩
  | bar =>
      cases h
      exact ⟨⟨hframe.of_nextBranch, houter⟩, by simp⟩
  | directive change =>
      cases h
      refine ⟨⟨?_, houter⟩, by simp⟩
      exact ⟨fun a ha => hframe.parts a (List.mem_cons_of_mem _ ha), hframe.branches⟩
  | opened kind name =>
      cases name with
      | none =>
          cases h
          exact ⟨List.forall_mem_cons.mp houter, by simp⟩
      | some name =>
          rw [ReadState.add] at h
          split at h
          · cases h
          · cases h
            exact ⟨List.forall_mem_cons.mp houter, by simp⟩
  | closed =>
      rw [ReadState.add] at h
      split at h
      · cases h
      · next parent outer heq =>
          cases h
          obtain ⟨hparent, hgroup⟩ := hframe.of_push
          refine ⟨⟨Frame.within_of_ast (.group hgroup), ?_⟩, by simp⟩
          rw [heq]
          exact List.forall_mem_cons.mpr ⟨hparent, houter⟩

theorem within_of_readFrom {state : ReadState} {cs : List Char} {whole : Ast}
    (h : readFrom state cs = .ok whole) : state.Within whole := by
  fun_induction readFrom state cs with
  | case1 state =>
      rw [ReadState.finish] at h
      split at h
      · next houter =>
          cases h
          refine ⟨Frame.within_of_ast .self, ?_⟩
          rw [List.isEmpty_iff.mp houter]
          exact List.forall_mem_nil _
      · cases h
  | case2 | case3 => cases h
  | case4 state c rest token tail hread state' hadd ih => exact (within_of_add hadd (ih h)).1

/-! ## The pieces -/

/-- Whether a piece that starts with `c` leaves verbose mode off, is no lone
closing brace, bears no name with a bracket in it, and has no range that ends
in an opening bracket. -/
def Token.Plain (c : Char) : Token → Prop
  | .part (.bracketed _ set) => ∀ first last, set.Has (.range first last) → last.char ≠ '['
  | .part _ => c ≠ '\x7d'
  | .opened kind name =>
    (∀ change, kind = .flags change → .verbose ∉ change.on) ∧ ∀ n ∈ name, Unmarked n
  | .directive change => .verbose ∉ change.on
  | .repeated _ | .bar | .closed => True

/-- How many groups are open behind a piece. -/
def Token.level (n : Nat) : Token → Nat
  | .opened .. => n + 1
  | .closed => n - 1
  | _ => n

theorem plain_of_ofGroupStart {c : Char} {start : GroupStart}
    (h : (Token.ofGroupStart start).Plain c) : start.Plain := by
  cases start with
  | directive change => exact h
  | flagged change => exact h.1 change rfl
  | capture => trivial
  | named name => exact h.2 name rfl

section

variable {c : Char} {cs rest : List Char} {token : Token}

theorem moves_of_readRepetition? {quantifier : Quantifier}
    (h : readRepetition? false c cs = some (.ok (quantifier, rest))) :
    ∃ text, cs = text ++ rest ∧ ∀ n, Moves (steady 0 n) (c :: text) (steady 0 n) := by
  rw [readRepetition?] at h
  split at h
  · next bounds hbounds =>
      obtain ⟨text, hcs, htext⟩ := eq_of_readLazyMark (Except.ok.inj (Option.some.inj h))
      have hc : isMark c = false :=
        isMark_eq_false_of (fun c => (simpleBounds? c).isSome) rfl (by rw [hbounds]; rfl)
      exact ⟨text, hcs, fun n => moves_unmarked (List.forall_mem_cons.mpr ⟨hc, htext⟩)⟩
  · split at h
    · next hc =>
        subst hc
        obtain ⟨text, mark, hcs, htext, hmark⟩ := counts_of_readCounted (Option.some.inj h)
        refine ⟨text ++ '\x7d' :: mark, hcs, fun n => ?_⟩
        have hsplit : '\x7b' :: (text ++ '\x7d' :: mark) = '\x7b' :: text ++ ['\x7d'] ++ mark := by
          simp only [List.append_assoc, List.cons_append, List.nil_append]
        rw [hsplit]
        exact (moves_braces htext).append (moves_unmarked hmark)
    · cases h

theorem moves_of_opening {start : GroupStart}
    (h : readGroupStart false cs = .ok (start, rest)) (hstart : start.Plain) :
    ∃ text, cs = text ++ rest ∧
      ∀ n, Moves (steady 0 n) ('(' :: text) (steady 0 ((Token.ofGroupStart start).level n)) := by
  have hopen : ∀ n, Moves (steady 0 n) ['('] (steady 0 (n + 1)) :=
    fun n => .cons (.inl (by decide)) .nil
  obtain ⟨text, htext, ⟨hcs, hstart⟩ | ⟨hcs, change, rfl⟩⟩ := unmarked_of_readGroupStart h hstart
  · refine ⟨text, hcs, fun n => ?_⟩
    have hlevel : (Token.ofGroupStart start).level n = n + 1 := by
      cases start with
      | directive change => exact absurd rfl (hstart change)
      | flagged | capture | named => rfl
    rw [hlevel]
    exact (hopen n).append (moves_unmarked htext)
  · refine ⟨text ++ [')'], ?_, fun n => ?_⟩
    · rw [hcs, List.append_assoc]
      rfl
    · have hclose : Moves (steady 0 (n + 1)) [')'] (steady 0 n) := .cons (.inl (by decide)) .nil
      exact (hopen n).append ((moves_unmarked htext).append hclose)

/-- A character that stands for itself, where the reader takes it for that. A
comma does so inside of brackets only. -/
theorem moves_literal (hbrace : c ≠ '\x7d')
    (h : c ∉ ['(', ')', '[', '\\', '\x7b']) {n : Nat} (hn : 0 < n ∨ c ≠ ',') :
    Moves (steady 0 n) [c] (steady 0 n) := by
  cases hc : isMark c with
  | false => exact moves_unmarked (List.forall_mem_singleton.mpr hc)
  | true =>
      rcases eq_of_isMark hc with rfl | rfl | rfl | rfl | rfl | rfl | rfl | rfl
      case inr.inl =>
        have hinside : 0 < n := hn.resolve_right fun hne => hne rfl
        exact moves_listed (.inr hinside) (List.forall_mem_singleton.mpr (.inr rfl))
      case inr.inr.inr.inr.inr.inl => exact .cons (.inl (by decide)) .nil
      case inr.inr.inr.inr.inr.inr.inr => exact absurd rfl hbrace
      all_goals exact absurd h (by decide)

theorem moves_of_readPlain (h : readPlain false c cs = .ok (token, rest)) (hbrace : c ≠ '\x7b')
    (hplain : token.Plain c) (hresolves : ∀ a, token = .part a → a.Resolves) :
    ∃ text, cs = text ++ rest ∧
      ∀ n, 0 < n ∨ c ≠ ',' → Moves (steady 0 n) (c :: text) (steady 0 (token.level n)) := by
  rw [readPlain.eq_def] at h
  split at h
  · obtain ⟨⟨start, behind⟩, hstart, heq⟩ := map_eq_ok_iff.mp h
    obtain ⟨rfl, rfl⟩ := Prod.mk.inj heq
    obtain ⟨text, hcs, hmoves⟩ := moves_of_opening hstart (plain_of_ofGroupStart hplain)
    exact ⟨text, hcs, fun n _ => hmoves n⟩
  · cases h
    exact ⟨[], rfl, fun n _ => .cons (.inl (by decide)) .nil⟩
  · cases h
    exact ⟨[], rfl, fun n _ => moves_unmarked (by decide)⟩
  · obtain ⟨⟨⟨negated, set⟩, behind⟩, hclass, heq⟩ := map_eq_ok_iff.mp h
    obtain ⟨rfl, rfl⟩ := Prod.mk.inj heq
    have htame : ∀ i, set.Has i → i.Tame := fun i hi =>
      ⟨found_of_bracketed (hresolves _ rfl) hi, fun first last hrange => by
        subst hrange
        exact hplain first last hi⟩
    obtain ⟨text, hcs, hmoves⟩ := moves_of_readClass hclass htame
    exact ⟨text, hcs, fun n _ => hmoves n⟩
  · obtain ⟨⟨p, behind⟩, hescape, heq⟩ := map_eq_ok_iff.mp h
    obtain ⟨rfl, rfl⟩ := Prod.mk.inj heq
    obtain ⟨d, text, hcs, htext⟩ :=
      escapeTail_of_readEscape hescape (found_of_toAst (hresolves _ rfl))
    exact ⟨d :: text, hcs, fun n _ => moves_escape htext⟩
  · cases h
    exact ⟨[], rfl, fun n _ => moves_unmarked (by decide)⟩
  · cases h
    exact ⟨[], rfl, fun n _ => moves_unmarked (by decide)⟩
  · cases h
    exact ⟨[], rfl, fun n _ => moves_unmarked (by decide)⟩
  · next hopen hclose _ hclass hslash _ _ _ =>
      cases h
      refine ⟨[], rfl, fun n hn => moves_literal hplain ?_ hn⟩
      intro hmem
      simp only [List.mem_cons, List.not_mem_nil, or_false] at hmem
      rcases hmem with hc | hc | hc | hc | hc
      · exact hopen hc
      · exact hclose hc
      · exact hclass hc
      · exact hslash hc
      · exact hbrace hc

theorem moves_of_readToken {canRepeat : Bool}
    (h : readToken false canRepeat c cs = .ok (token, rest)) (hplain : token.Plain c)
    (hresolves : ∀ a, token = .part a → a.Resolves) :
    ∃ text, cs = text ++ rest ∧
      ∀ n, 0 < n ∨ c ≠ ',' → Moves (steady 0 n) (c :: text) (steady 0 (token.level n)) := by
  rw [readToken] at h
  split at h
  · next read hread =>
      split at h
      · obtain ⟨⟨quantifier, behind⟩, hquantifier, heq⟩ := map_eq_ok_iff.mp h
        obtain ⟨rfl, rfl⟩ := Prod.mk.inj heq
        rw [hquantifier] at hread
        obtain ⟨text, hcs, hmoves⟩ := moves_of_readRepetition? hread
        exact ⟨text, hcs, fun n _ => hmoves n⟩
      · cases h
  · next hnone =>
      refine moves_of_readPlain h ?_ hplain hresolves
      rintro rfl
      cases hnone

end

/-! ## The whole pattern -/

/-- Reading goes on through plain pieces only. -/
inductive PlainFrom : ReadState → List Char → Prop
  | done {state : ReadState} : PlainFrom state []
  | piece {state state' : ReadState} {c : Char} {rest tail : List Char} {token : Token}
      (hread : readToken state.frame.verbose state.frame.canRepeat c rest = .ok (token, tail))
      (hplain : token.Plain c) (hadd : state.add token = .ok state')
      (h : PlainFrom state' (skipTrivia state'.frame.verbose tail)) : PlainFrom state (c :: rest)

/-- Verbose mode is off in every open group. -/
def ReadState.Terse (state : ReadState) : Prop :=
  ∀ frame ∈ state.frame :: state.outer, frame.verbose = false

theorem verbose_apply {change : FlagChange} (h : .verbose ∉ change.on) :
    change.apply .verbose false = false := by
  rw [FlagChange.apply, if_neg h]
  split <;> rfl

/-- A plain piece leaves verbose mode off, and the groups it opens and closes
are the brackets that the scanner counts. -/
theorem terse_of_add {state state' : ReadState} {token : Token} {c : Char}
    (hadd : state.add token = .ok state') (hplain : token.Plain c) (h : state.Terse) :
    state'.Terse ∧ ∀ k, token.level (k + state.outer.length) = k + state'.outer.length := by
  obtain ⟨hframe, houter⟩ := List.forall_mem_cons.mp h
  cases token with
  | part a | bar =>
      cases hadd
      exact ⟨List.forall_mem_cons.mpr ⟨hframe, houter⟩, fun _ => rfl⟩
  | repeated quantifier =>
      cases hadd
      refine ⟨List.forall_mem_cons.mpr ⟨?_, houter⟩, fun _ => rfl⟩
      rw [← hframe]
      rw [Frame.repeatLast.eq_def]
      split <;> rfl
  | directive change =>
      cases hadd
      refine ⟨List.forall_mem_cons.mpr ⟨?_, houter⟩, fun _ => rfl⟩
      rw [Frame.direct, hframe]
      exact verbose_apply hplain
  | opened kind name =>
      have hinner : (state.frame.inner kind).verbose = false := by
        cases kind with
        | capture => exact hframe
        | flags change =>
            rw [Frame.inner, hframe]
            exact verbose_apply (hplain.1 change rfl)
      cases name with
      | none =>
          cases hadd
          exact ⟨List.forall_mem_cons.mpr ⟨hinner, h⟩, fun _ => rfl⟩
      | some name =>
          rw [ReadState.add] at hadd
          split at hadd
          · cases hadd
          · cases hadd
            exact ⟨List.forall_mem_cons.mpr ⟨hinner, h⟩, fun _ => rfl⟩
  | closed =>
      rw [ReadState.add] at hadd
      split at hadd
      · cases hadd
      · next parent outer heq =>
          cases hadd
          rw [heq] at houter
          obtain ⟨hparent, hbehind⟩ := List.forall_mem_cons.mp houter
          refine ⟨List.forall_mem_cons.mpr ⟨hparent, hbehind⟩, fun k => ?_⟩
          rw [heq, Token.level, List.length_cons]
          show k + (outer.length + 1) - 1 = k + outer.length
          omega

/-- In a pattern of plain pieces the scanner is as many brackets deep as groups
are open. So no comma in it separates if there is one more around the pattern,
and if none separates the scanner comes out of it as it came in. -/
theorem moves_of_readFrom {state : ReadState} {cs : List Char} {ast : Ast}
    (hplain : PlainFrom state cs) (hterse : state.Terse) (h : readFrom state cs = .ok ast)
    (hast : ast.Resolves) {k : Nat}
    (hk : 0 < k ∨ UnsplitFrom (steady 0 (k + state.outer.length)) cs) :
    Moves (steady 0 (k + state.outer.length)) cs (steady 0 k) := by
  induction hplain with
  | @done state =>
      rw [readFrom, ReadState.finish] at h
      split at h
      · next houter =>
          rw [List.isEmpty_iff.mp houter]
          exact .nil
      · cases h
  | @piece state state' c rest tail token hread htoken hadd _ ih =>
      rw [readFrom_cons hread] at h
      simp only [hadd] at h
      obtain ⟨hterse', hlevel⟩ := terse_of_add hadd htoken hterse
      rw [hterse state.frame (List.mem_cons_self ..)] at hread
      have hquiet : skipTrivia state'.frame.verbose tail = tail := by
        rw [hterse' state'.frame (List.mem_cons_self ..), skipTrivia_false]
      rw [hquiet] at h ih
      have hwithin := (within_of_add hadd (within_of_readFrom h)).2
      obtain ⟨text, hrest, hmoves⟩ := moves_of_readToken hread htoken
        fun a ha => (hwithin a ha).resolves hast
      have hinside : 0 < k + state.outer.length ∨ c ≠ ',' := by
        rcases Nat.eq_zero_or_pos (k + state.outer.length) with hzero | hpos
        · rw [hzero] at hk
          exact .inr fun hc => (hk.resolve_left (by omega)).1 ⟨hc, rfl⟩
        · exact .inl hpos
      have hhere := hmoves (k + state.outer.length) hinside
      rw [hlevel k] at hhere
      rw [hrest, ← List.cons_append] at hk ⊢
      refine hhere.append (ih hterse' h (hk.imp_right fun hunsplit => ?_))
      rw [← hhere.after]
      exact (unsplitFrom_append.mp hunsplit).2

/-- The scanner goes through a pattern of plain pieces and is where it was. -/
theorem moves_of_compile {ignoreCase : Bool} {sizeLimit : Nat} {p : List Char} {term : Term}
    (h : compile ignoreCase sizeLimit p = .ok term) (hplain : PlainFrom .start p) {k : Nat}
    (hk : 0 < k ∨ UnsplitFrom (steady 0 k) p) : Moves (steady 0 k) p (steady 0 k) := by
  rw [compile] at h
  split at h
  · cases h
  · next ast hread =>
      split at h
      · cases h
      · next expr modes hresolve =>
          rw [Ast.read] at hread
          split at hread
          · cases hread
          · next whole hfrom =>
              split at hread
              · cases hread
                have hterse : ReadState.start.Terse := List.forall_mem_singleton.mpr rfl
                exact moves_of_readFrom hplain hterse hfrom ⟨_, _, hresolve⟩ hk
              · cases hread

end NodeSieve.Regex
