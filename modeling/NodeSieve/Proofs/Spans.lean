import Mathlib.Data.List.Forall2
import NodeSieve.Regex.Term

/-!
# What spans a stretch

`Term.Spans` is defined by how a match is put together. These lemmas read it
the other way: what a stretch must look like if a term of a given form spans
it. All are equivalences, so a pattern's meaning can be worked out by
rewriting alone.

Repetitions need more than their constructors say. One of them is a number of
`Rounds` of its body, and the number is all that its counts restrict. Rounds
can be counted, added in front where the body matches nothing, and cut open at
the first one that takes a character; none of this could be said of the counts
directly, since they shrink from round to round.
-/

namespace NodeSieve.Unicode.CharSet

theorem contains_singleton {c d : Char} : (singleton c).contains d = true ↔ d = c := by
  simp only [contains, containsPoint, singleton, List.any_cons, List.any_nil, Bool.or_false,
    Interval.contains, Bool.and_eq_true, decide_eq_true_eq]
  rw [← Char.toNat_inj]
  omega

theorem forall₂_singleton_iff {word x : List Char} :
    List.Forall₂ (fun c d => (singleton c).contains d = true) word x ↔ x = word := by
  have hsets : (fun c d => (singleton c).contains d = true) = Eq := by
    funext c d
    exact propext (contains_singleton.trans eq_comm)
  rw [hsets, List.forall₂_eq_eq_eq, eq_comm]

end NodeSieve.Unicode.CharSet

namespace NodeSieve.Regex.Term

open NodeSieve.Unicode

section

variable {before behind x : List Char}

theorem spans_empty_iff : Spans .empty before x behind ↔ x = [] := by
  constructor
  · intro h
    cases h
    rfl
  · intro h
    subst h
    exact .empty

theorem spans_oneOf_iff {set : CharSet} :
    Spans (.oneOf set) before x behind ↔ ∃ c, x = [c] ∧ set.contains c = true := by
  constructor
  · intro h
    cases h
    next c h => exact ⟨c, rfl, h⟩
  · intro h
    obtain ⟨c, rfl, h⟩ := h
    exact .oneOf h

theorem spans_look_iff {condition : Look} :
    Spans (.look condition) before x behind ↔
      x = [] ∧ condition.holds before.getLast? behind.head? = true := by
  constructor
  · intro h
    cases h
    next h => exact ⟨rfl, h⟩
  · intro h
    obtain ⟨rfl, h⟩ := h
    exact .look h

theorem spans_cat_iff {r s : Term} :
    Spans (.cat r s) before x behind ↔
      ∃ y z, x = y ++ z ∧ Spans r before y (z ++ behind) ∧ Spans s (before ++ y) z behind := by
  constructor
  · intro h
    cases h with
    | @cat _ _ _ y z _ hr hs => exact ⟨y, z, rfl, hr, hs⟩
  · intro h
    obtain ⟨y, z, rfl, hr, hs⟩ := h
    exact .cat hr hs

theorem spans_empty_cat_iff {r : Term} :
    Spans (.cat .empty r) before x behind ↔ Spans r before x behind := by
  rw [spans_cat_iff]
  constructor
  · intro h
    obtain ⟨y, z, rfl, hy, hz⟩ := h
    obtain rfl := spans_empty_iff.mp hy
    rwa [List.append_nil] at hz
  · intro h
    exact ⟨[], x, rfl, .empty, by rwa [List.append_nil]⟩

theorem spans_alt_iff {r s : Term} :
    Spans (.alt r s) before x behind ↔ Spans r before x behind ∨ Spans s before x behind := by
  constructor
  · intro h
    cases h with
    | left h => exact .inl h
    | right h => exact .inr h
  · intro h
    rcases h with h | h
    · exact .left h
    · exact .right h

end

/-! ## Rounds -/

/-- A number of matches of a term one behind another. -/
inductive Rounds (r : Term) : Nat → List Char → List Char → List Char → Prop
  | nil {before behind : List Char} : Rounds r 0 before [] behind
  | cons {n : Nat} {before x y behind : List Char} (hr : Spans r before x (y ++ behind))
      (hs : Rounds r n (before ++ x) y behind) : Rounds r (n + 1) before (x ++ y) behind

/-- A number of rounds that the counts of a repetition allow. -/
def Allows (least : Nat) (most : Option Nat) (n : Nat) : Prop :=
  least ≤ n ∧ ∀ m ∈ most, n ≤ m

theorem allows_succ_iff {least n : Nat} {most : Option Nat} :
    Allows least most (n + 1) ↔ most ≠ some 0 ∧ Allows (least - 1) (most.map (· - 1)) n := by
  cases most with
  | none =>
      simp only [Allows, Option.map_none, ne_eq, reduceCtorEq, not_false_eq_true, true_and]
      refine and_congr ⟨fun h => by omega, fun h => by omega⟩ ?_
      exact ⟨fun _ => nofun, fun _ => nofun⟩
  | some m =>
      simp only [Allows, Option.map_some, ne_eq, Option.some.injEq, Option.mem_def, forall_eq']
      omega

theorem spans_repeated_iff {least : Nat} {most : Option Nat} {r : Term}
    {before x behind : List Char} :
    Spans (.repeated least most r) before x behind ↔
      ∃ n, Allows least most n ∧ Rounds r n before x behind := by
  constructor
  · intro h
    generalize ht : Term.repeated least most r = t at h
    induction h generalizing least most with
    | empty | oneOf | look | cat | left | right => cases ht
    | done =>
        cases ht
        exact ⟨0, ⟨Nat.le_refl 0, fun m _ => Nat.zero_le m⟩, .nil⟩
    | again hmost hr hs ihr ihs =>
        cases ht
        obtain ⟨n, hn, hrounds⟩ := ihs rfl
        exact ⟨n + 1, allows_succ_iff.mpr ⟨hmost, hn⟩, .cons hr hrounds⟩
  · intro h
    obtain ⟨n, hn, hrounds⟩ := h
    induction hrounds generalizing least most with
    | nil =>
        obtain rfl : least = 0 := Nat.le_zero.mp hn.1
        exact .done
    | cons hr hs ih =>
        obtain ⟨hmost, hn⟩ := allows_succ_iff.mp hn
        exact .again hmost hr (ih hn)

section

variable {r : Term} {before behind x : List Char}

theorem rounds_zero_iff : Rounds r 0 before x behind ↔ x = [] := by
  constructor
  · intro h
    cases h
    rfl
  · intro h
    subst h
    exact .nil

theorem rounds_one_iff : Rounds r 1 before x behind ↔ Spans r before x behind := by
  constructor
  · intro h
    cases h with
    | cons hr hs =>
        cases hs
        simpa using hr
  · intro h
    have hone := Rounds.cons (n := 0) (x := x) (y := []) (by simpa using h) .nil
    rwa [List.append_nil] at hone

/-- Where a term matches nothing, rounds can be added. -/
theorem Rounds.pad {n : Nat} (hnil : Spans r before [] (x ++ behind))
    (h : Rounds r n before x behind) (k : Nat) : Rounds r (n + k) before x behind := by
  induction k with
  | zero => exact h
  | succ k ih =>
      have hbefore : Rounds r (n + k) (before ++ []) x behind := by rwa [List.append_nil]
      exact .cons hnil hbefore

theorem Rounds.of_nil (hnil : Spans r before [] behind) (n : Nat) :
    Rounds r n before [] behind := by
  have h := Rounds.pad (x := []) hnil .nil n
  rwa [Nat.zero_add] at h

/-- The first round of those that match nothing together matches nothing. -/
theorem Rounds.spans_nil {n : Nat} (h : Rounds r (n + 1) before [] behind) :
    Spans r before [] behind := by
  generalize hx : ([] : List Char) = x at h
  cases h with
  | cons hr _ =>
      obtain ⟨rfl, rfl⟩ := List.append_eq_nil_iff.mp hx.symm
      exact hr

/-- The round that takes the first character, and the rounds in front of it,
all of which match nothing. -/
theorem Rounds.exists_taking {n : Nat} {c : Char}
    (h : Rounds r n before (c :: x) behind) :
    ∃ idle n' y z, n = idle + 1 + n' ∧ x = y ++ z ∧
      (idle ≠ 0 → Spans r before [] (c :: x ++ behind)) ∧
      Spans r before (c :: y) (z ++ behind) ∧ Rounds r n' (before ++ c :: y) z behind := by
  generalize hcx : c :: x = cx at h
  induction h with
  | nil => cases hcx
  | @cons n before first rest behind hr hs ih =>
      cases first with
      | nil =>
          rw [List.nil_append] at hcx
          rw [List.append_nil] at ih hs
          obtain ⟨idle, n', y, z, rfl, rfl, -, hy, hz⟩ := ih hcx
          exact ⟨idle + 1, n', y, z, by omega, rfl, fun _ => hr, hy, hz⟩
      | cons d first =>
          obtain ⟨rfl, rfl⟩ := List.cons.inj hcx
          exact ⟨0, n, first, rest, by omega, rfl, absurd rfl, hr, hs⟩

end

/-! ## Terms in a row -/

section

variable {before behind x : List Char}

theorem spans_catAll_cons {r : Term} {rs : List Term} :
    Spans (catAll (r :: rs)) before x behind ↔
      ∃ y z, x = y ++ z ∧ Spans r before y (z ++ behind) ∧
        Spans (catAll rs) (before ++ y) z behind := by
  cases rs with
  | nil =>
      rw [show catAll [r] = r from rfl]
      constructor
      · intro h
        exact ⟨x, [], (List.append_nil x).symm, by simpa using h, .empty⟩
      · intro h
        obtain ⟨y, z, rfl, hy, hz⟩ := h
        obtain rfl := spans_empty_iff.mp hz
        simpa using hy
  | cons s ss => exact spans_cat_iff

theorem spans_catAll_append {rs ss : List Term} :
    Spans (catAll (rs ++ ss)) before x behind ↔
      ∃ y z, x = y ++ z ∧ Spans (catAll rs) before y (z ++ behind) ∧
        Spans (catAll ss) (before ++ y) z behind := by
  induction rs generalizing before x with
  | nil => exact spans_empty_cat_iff.symm.trans spans_cat_iff
  | cons r rs ih =>
      rw [List.cons_append, spans_catAll_cons]
      constructor
      · intro h
        obtain ⟨y, w, rfl, hr, hw⟩ := h
        obtain ⟨z, u, rfl, hz, hu⟩ := ih.mp hw
        refine ⟨y ++ z, u, (List.append_assoc ..).symm, ?_, by rwa [← List.append_assoc]⟩
        exact spans_catAll_cons.mpr ⟨y, z, rfl, by rwa [← List.append_assoc], hz⟩
      · intro h
        obtain ⟨w, u, rfl, hw, hu⟩ := h
        obtain ⟨y, z, rfl, hy, hz⟩ := spans_catAll_cons.mp hw
        refine ⟨y, z ++ u, List.append_assoc .., by rwa [List.append_assoc], ?_⟩
        exact ih.mpr ⟨z, u, rfl, hz, by rwa [List.append_assoc]⟩

/-- Sets in a row span the texts whose characters they contain, one by one. -/
theorem spans_sets_iff {sets : List CharSet} :
    Spans (catAll (sets.map oneOf)) before x behind ↔
      List.Forall₂ (fun set c => set.contains c = true) sets x := by
  induction sets generalizing before x with
  | nil => rw [List.forall₂_nil_left_iff]; exact spans_empty_iff
  | cons set sets ih =>
      rw [List.map_cons, spans_catAll_cons, List.forall₂_cons_left_iff]
      constructor
      · intro h
        obtain ⟨y, z, rfl, hy, hz⟩ := h
        obtain ⟨c, rfl, hc⟩ := spans_oneOf_iff.mp hy
        exact ⟨c, z, hc, ih.mp hz, rfl⟩
      · intro h
        obtain ⟨c, z, hc, hz, rfl⟩ := h
        exact ⟨[c], z, rfl, .oneOf hc, ih.mpr hz⟩

theorem spans_char_iff {c : Char} : Spans (char c) before x behind ↔ x = [c] := by
  rw [char, spans_oneOf_iff]
  constructor
  · intro h
    obtain ⟨d, rfl, hd⟩ := h
    rw [CharSet.contains_singleton] at hd
    rw [hd]
  · intro h
    subst h
    exact ⟨c, rfl, CharSet.contains_singleton.mpr rfl⟩

/-- A word spans itself. -/
theorem spans_word_iff {word : List Char} :
    Spans (catAll (word.map char)) before x behind ↔ x = word := by
  have hchars : word.map char = (word.map CharSet.singleton).map oneOf :=
    List.map_map.symm
  rw [hchars, spans_sets_iff, List.forall₂_map_left_iff, CharSet.forall₂_singleton_iff]

theorem spans_optional_iff {r : Term} :
    Spans (.repeated 0 (some 1) r) before x behind ↔ x = [] ∨ Spans r before x behind := by
  rw [spans_repeated_iff]
  constructor
  · intro h
    obtain ⟨n, ⟨-, hn⟩, hrounds⟩ := h
    have hn : n ≤ 1 := hn 1 rfl
    match n, hn with
    | 0, _ => exact .inl (rounds_zero_iff.mp hrounds)
    | 1, _ => exact .inr (rounds_one_iff.mp hrounds)
  · intro h
    rcases h with rfl | h
    · exact ⟨0, ⟨Nat.le_refl 0, fun m _ => Nat.zero_le m⟩, .nil⟩
    · refine ⟨1, ⟨Nat.zero_le 1, ?_⟩, rounds_one_iff.mpr h⟩
      rintro m ⟨⟩
      exact Nat.le_refl 1

/-- A class any number of times spans the texts that are made of it. -/
theorem spans_star_oneOf_iff {set : CharSet} :
    Spans (.repeated 0 none (.oneOf set)) before x behind ↔
      ∀ c ∈ x, set.contains c = true := by
  rw [spans_repeated_iff]
  constructor
  · intro h
    obtain ⟨n, -, hrounds⟩ := h
    induction hrounds with
    | nil => exact List.forall_mem_nil _
    | cons hr _ ih =>
        obtain ⟨c, rfl, hc⟩ := spans_oneOf_iff.mp hr
        exact List.forall_mem_cons.mpr ⟨hc, ih⟩
  · intro h
    refine ⟨x.length, ⟨Nat.zero_le _, nofun⟩, ?_⟩
    induction x generalizing before with
    | nil => exact .nil
    | cons c x ih =>
        obtain ⟨hc, hx⟩ := List.forall_mem_cons.mp h
        exact .cons (x := [c]) (spans_oneOf_iff.mpr ⟨c, rfl, hc⟩) (ih hx)

end

/-- A pattern between `^` and `$` matches the texts that it spans as a
whole. -/
theorem matches_anchored_iff {rs : List Term} {text : List Char} :
    Matches (catAll (.look .textStart :: (rs ++ [.look .textEnd]))) text ↔
      Spans (catAll rs) [] text [] := by
  constructor
  · intro h
    obtain ⟨before, stretch, behind, rfl, h⟩ := h
    obtain ⟨y, z, rfl, hstart, h⟩ := spans_catAll_cons.mp h
    obtain ⟨rfl, hfirst⟩ := spans_look_iff.mp hstart
    obtain ⟨x, w, rfl, hx, hend⟩ := spans_catAll_append.mp h
    obtain ⟨rfl, hlast⟩ := spans_look_iff.mp hend
    obtain rfl : before = [] :=
      List.getLast?_eq_none_iff.mp (Option.isNone_iff_eq_none.mp hfirst)
    obtain rfl : behind = [] :=
      List.head?_eq_none_iff.mp (Option.isNone_iff_eq_none.mp hlast)
    simpa using hx
  · intro h
    refine ⟨[], text, [], by simp, spans_catAll_cons.mpr ⟨[], text, rfl, .look rfl, ?_⟩⟩
    exact spans_catAll_append.mpr ⟨text, [], (List.append_nil text).symm, h, .look rfl⟩

end NodeSieve.Regex.Term
