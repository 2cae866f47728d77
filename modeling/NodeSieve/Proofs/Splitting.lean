import Mathlib.Data.List.Induction
import NodeSieve.Definition.Group
import NodeSieve.Filter.Render
import NodeSieve.Proofs.Blanks

/-!
# Splitting a group

The scanner that splits a group at its commas is a machine with one state
between two characters. A comma separates only in the state the machine
starts in, so every pattern of a group is scanned as if it stood alone: it
does not split again, and what comes behind a separating comma is split as a
group of its own.

A pattern that leaves the scanner in any other state swallows the comma
behind it. Both halves are needed to say when the patterns of a test can be
written into one group: `splitPatterns_joinWithCommas` for those that can, and
`exists_splitFrom_append_cons` for a comma or quote that is swallowed. They
are also all that keeps joining from being an inverse of splitting
(`splitPatterns_inverts_joining`).
-/

namespace NodeSieve.Definition

open NodeSieve.Unicode NodeSieve.Filter

namespace Scan

/-- The state behind a text. -/
def after (s : Scan) (cs : List Char) : Scan :=
  cs.foldl next s

/-- Outside of classes nothing of a class's opening is remembered. -/
def Tidy (s : Scan) : Prop :=
  s.classDepth = 0 → s.opening = .none

theorem start_tidy : start.Tidy := fun _ => rfl

theorem nextOutside_tidy {s : Scan} (c : Char) (hs : s.Tidy) : (s.nextOutside c).Tidy := by
  rw [nextOutside.eq_def]
  split
  · exact fun hdepth => absurd hdepth (Nat.succ_ne_zero 0)
  · exact hs
  · exact hs
  · exact hs
  · exact hs
  · exact hs

theorem nextInClass_tidy {s : Scan} (c : Char) (hin : s.classDepth ≠ 0) :
    (s.nextInClass c).Tidy := by
  rw [nextInClass.eq_def]
  split
  · exact fun hdepth => absurd hdepth (Nat.succ_ne_zero _)
  · exact fun hdepth => absurd hdepth hin
  · split
    · next hnone => exact fun _ => hnone
    · exact fun _ => rfl
  · exact fun _ => rfl

theorem next_tidy {s : Scan} (c : Char) (hs : s.Tidy) : (s.next c).Tidy := by
  rw [next]
  split
  · exact fun _ => rfl
  · split
    · exact fun _ => rfl
    · split
      · exact nextOutside_tidy c hs
      · next hin => exact nextInClass_tidy c hin

theorem after_tidy {s : Scan} (cs : List Char) (hs : s.Tidy) : (s.after cs).Tidy := by
  induction cs generalizing s with
  | nil => exact hs
  | cons c cs ih => exact ih (next_tidy c hs)

/-- A comma separates in one state only. -/
theorem eq_start_of_separatesAt {s : Scan} (hs : s.Tidy) (h : s.separatesAt = true) :
    s = start := by
  obtain ⟨escaped, classDepth, opening, nesting⟩ := s
  simp only [separatesAt, Bool.and_eq_true, Bool.not_eq_true', beq_iff_eq] at h
  obtain ⟨⟨rfl, rfl⟩, rfl⟩ := h
  rw [show opening = .none from hs rfl]
  rfl

theorem after_eq_start_iff {cs : List Char} :
    start.after cs = start ↔ (start.after cs).separatesAt = true := by
  constructor
  · intro h
    rw [h]
    rfl
  · exact eq_start_of_separatesAt (after_tidy cs start_tidy)

/-- Blanks do not move the scanner where a comma separates. -/
theorem next_of_blank {c : Char} (h : isBlank c = true) : start.next c = start := by
  have hslash : c ≠ '\\' := by
    intro h
    subst h
    exact absurd h (by decide)
  rw [next, if_neg (by decide), if_neg hslash, if_pos (show start.classDepth = 0 from rfl),
    nextOutside.eq_def]
  split
  all_goals first
    | rfl
    | exact absurd h (by decide)

theorem after_of_allBlank {cs : List Char} (h : AllBlank cs) : start.after cs = start := by
  induction cs with
  | nil => rfl
  | cons c cs ih =>
      obtain ⟨hc, hcs⟩ := allBlank_cons.mp h
      rw [after, List.foldl_cons, next_of_blank hc]
      exact ih hcs

end Scan

/-! ## Texts that do not split -/

/-- A text in which no comma separates, scanned from a state on. -/
def UnsplitFrom (s : Scan) : List Char → Prop
  | [] => True
  | c :: cs => ¬ (c = ',' ∧ s.separatesAt = true) ∧ UnsplitFrom (s.next c) cs

theorem unsplitFrom_append {s : Scan} {xs ys : List Char} :
    UnsplitFrom s (xs ++ ys) ↔ UnsplitFrom s xs ∧ UnsplitFrom (s.after xs) ys := by
  induction xs generalizing s with
  | nil => exact ⟨fun h => ⟨trivial, h⟩, And.right⟩
  | cons c cs ih =>
      rw [List.cons_append, UnsplitFrom, UnsplitFrom, ih, and_assoc]
      rfl

theorem splitFrom_ne_nil (s : Scan) (cs : List Char) : splitFrom s cs ≠ [] := by
  cases cs with
  | nil => exact List.cons_ne_nil _ _
  | cons c cs =>
      rw [splitFrom]
      split
      · exact List.cons_ne_nil _ _
      · split <;> exact List.cons_ne_nil _ _

theorem splitPatterns_ne_nil (group : List Char) : splitPatterns group ≠ [] :=
  splitFrom_ne_nil .start group

theorem splitFrom_cons_of_not_separating {s : Scan} {c : Char} {cs piece : List Char}
    {pieces : List (List Char)} (hc : ¬ (c = ',' ∧ s.separatesAt = true))
    (h : splitFrom (s.next c) cs = piece :: pieces) :
    splitFrom s (c :: cs) = (c :: piece) :: pieces := by
  rw [splitFrom, if_neg hc, h]

/-- What does not split goes to the front of the first pattern behind it. -/
theorem splitFrom_append {s : Scan} {p cs piece : List Char} {pieces : List (List Char)}
    (hp : UnsplitFrom s p) (h : splitFrom (s.after p) cs = piece :: pieces) :
    splitFrom s (p ++ cs) = (p ++ piece) :: pieces := by
  induction p generalizing s with
  | nil => exact h
  | cons c p ih => exact splitFrom_cons_of_not_separating hp.1 (ih hp.2 h)

theorem splitFrom_of_unsplit {s : Scan} {p : List Char} (hp : UnsplitFrom s p) :
    splitFrom s p = [p] := by
  have h : splitFrom s (p ++ []) = [p ++ []] := splitFrom_append hp rfl
  rwa [List.append_nil] at h

/-- A separating comma ends a pattern. -/
theorem splitFrom_append_comma {s : Scan} {p cs : List Char} (hp : UnsplitFrom s p)
    (hsep : (s.after p).separatesAt = true) :
    splitFrom s (p ++ ',' :: cs) = p :: splitFrom (s.after p) cs := by
  have h : splitFrom (s.after p) (',' :: cs) = [] :: splitFrom (s.after p) cs := by
    rw [splitFrom, if_pos ⟨rfl, hsep⟩]
  rw [splitFrom_append hp h, List.append_nil]

/-- Any other character goes on with the pattern in front of it. -/
theorem exists_splitFrom_append_cons {s : Scan} {p cs : List Char} {c : Char}
    (hp : UnsplitFrom s p) (hc : ¬ (c = ',' ∧ (s.after p).separatesAt = true)) :
    ∃ piece pieces, splitFrom s (p ++ c :: cs) = (p ++ c :: piece) :: pieces := by
  cases h : splitFrom ((s.after p).next c) cs with
  | nil => exact absurd h (splitFrom_ne_nil _ _)
  | cons piece pieces =>
      exact ⟨piece, pieces, splitFrom_append hp (splitFrom_cons_of_not_separating hc h)⟩

/-! ## Groups, pattern by pattern -/

/-- A text stands as a whole, or up to the first comma that separates. -/
theorem unsplitFrom_or_exists_comma (s : Scan) (cs : List Char) :
    UnsplitFrom s cs ∨
      ∃ p ys, cs = p ++ ',' :: ys ∧ UnsplitFrom s p ∧ (s.after p).separatesAt = true := by
  induction cs generalizing s with
  | nil => exact .inl trivial
  | cons c cs ih =>
      by_cases hc : c = ',' ∧ s.separatesAt = true
      · exact .inr ⟨[], cs, congrArg (· :: cs) hc.1, trivial, hc.2⟩
      · rcases ih (s.next c) with hcs | ⟨p, ys, rfl, hp, hsep⟩
        · exact .inl ⟨hc, hcs⟩
        · exact .inr ⟨c :: p, ys, rfl, ⟨hc, hp⟩, hsep⟩

/-- Induction over the patterns of a group: it is one, or there is one in
front of a comma that separates it from the group of the others. -/
theorem group_induction {motive : List Char → Prop}
    (one : ∀ p, UnsplitFrom .start p → motive p)
    (more : ∀ p ys, UnsplitFrom .start p → Scan.start.after p = .start → motive ys →
      motive (p ++ ',' :: ys)) (group : List Char) : motive group := by
  induction hlength : group.length using Nat.strongRecOn generalizing group with
  | ind n ih =>
      subst hlength
      rcases unsplitFrom_or_exists_comma .start group with hgroup | ⟨p, ys, rfl, hp, hsep⟩
      · exact one group hgroup
      · have hshorter : ys.length < (p ++ ',' :: ys).length := by
          rw [List.length_append, List.length_cons]
          omega
        have hstart := Scan.after_eq_start_iff.mpr hsep
        exact more p ys hp hstart (ih ys.length hshorter ys rfl)

theorem splitPatterns_comma {p ys : List Char} (hp : UnsplitFrom .start p)
    (hstart : Scan.start.after p = .start) :
    splitPatterns (p ++ ',' :: ys) = p :: splitPatterns ys := by
  rw [splitPatterns, splitFrom_append_comma hp (Scan.after_eq_start_iff.mp hstart), hstart]
  rfl

theorem Scan.after_append (s : Scan) (xs ys : List Char) :
    s.after (xs ++ ys) = (s.after xs).after ys :=
  List.foldl_append

/-- Each pattern of a group stands as it would alone. -/
theorem splitPatterns_unsplit {group p : List Char} (hp : p ∈ splitPatterns group) :
    UnsplitFrom .start p := by
  induction group using group_induction with
  | one q hq =>
      rw [splitPatterns, splitFrom_of_unsplit hq, List.mem_singleton] at hp
      exact hp ▸ hq
  | more q ys hq hstart ih =>
      rw [splitPatterns_comma hq hstart, List.mem_cons] at hp
      rcases hp with rfl | hp
      · exact hq
      · exact ih hp

/-- A comma that separates leaves the scanner as it was. -/
theorem Scan.after_comma {p : List Char} (hstart : start.after p = start) (ys : List Char) :
    start.after (p ++ ',' :: ys) = start.after ys := by
  rw [after_append, hstart]
  rfl

/-- The scanner comes out of a group as it comes out of the group's last
pattern, and that is the pattern which grows if the group does. -/
theorem exists_last_pattern (group : List Char) :
    ∃ front last, splitPatterns group = front ++ [last] ∧
      Scan.start.after group = Scan.start.after last ∧
      ∀ {ys piece more}, splitFrom (Scan.start.after group) ys = piece :: more →
        splitPatterns (group ++ ys) = front ++ (last ++ piece) :: more := by
  induction group using group_induction with
  | one p hp => exact ⟨[], p, splitFrom_of_unsplit hp, rfl, fun h => splitFrom_append hp h⟩
  | more p ys hp hstart ih =>
      obtain ⟨front, last, hys, hafter, hbehind⟩ := ih
      refine ⟨p :: front, last, ?_, ?_, fun {zs piece more} h => ?_⟩
      · rw [splitPatterns_comma hp hstart, hys]
        rfl
      · rw [Scan.after_comma hstart, hafter]
      · rw [Scan.after_comma hstart] at h
        rw [List.append_assoc, List.cons_append, splitPatterns_comma hp hstart, hbehind h]
        rfl

/-- Trimming takes away blanks only, and none of them moves the scanner in
front of the pattern. -/
theorem UnsplitFrom.trimBlanks {p : List Char} (hp : UnsplitFrom .start p) :
    UnsplitFrom .start (trimBlanks p) := by
  obtain ⟨u, v, hu, -, heq⟩ := exists_eq_trimBlanks p
  rw [heq, unsplitFrom_append, unsplitFrom_append, Scan.after_of_allBlank hu] at hp
  exact hp.1.2

/-! ## Patterns that can share a group -/

/-- Whether patterns can be written into one group: each but the last lets the
comma behind it separate, and the last lets the quote behind it close. -/
def joinable : List (List Char) → Bool
  | [] => true
  | [p] => !(Scan.start.after p).escaped
  | p :: ps => (Scan.start.after p).separatesAt && joinable ps

theorem joinWithCommas_cons {p : List Char} {ps : List (List Char)} (hne : ps ≠ []) :
    joinWithCommas (p :: ps) = p ++ ',' :: joinWithCommas ps := by
  cases ps with
  | nil => exact absurd rfl hne
  | cons q qs => rfl

theorem joinable_cons {p : List Char} {ps : List (List Char)} (hne : ps ≠ []) :
    joinable (p :: ps) = ((Scan.start.after p).separatesAt && joinable ps) := by
  cases ps with
  | nil => exact absurd rfl hne
  | cons q qs => rfl

/-- The scanner is outside of everything: no escape is pending, and no class,
group or repetition is open. -/
def Scan.Outside (s : Scan) : Prop :=
  s.escaped = false ∧ s.classDepth = 0 ∧ s.nesting = 0

theorem Scan.separatesAt_iff {s : Scan} : s.separatesAt = true ↔ s.Outside := by
  rw [separatesAt, Bool.and_eq_true, Bool.and_eq_true, Bool.not_eq_true', beq_iff_eq, beq_iff_eq,
    and_assoc]
  rfl

instance (s : Scan) : Decidable s.Outside :=
  decidable_of_iff _ Scan.separatesAt_iff

theorem outside_of_joinable {ps : List (List Char)} (h : joinable ps = true) :
    ∀ p ∈ ps.dropLast, (Scan.start.after p).Outside := by
  induction ps with
  | nil => exact List.forall_mem_nil _
  | cons p ps ih =>
      rcases eq_or_ne ps [] with rfl | hne
      · exact List.forall_mem_nil _
      · rw [joinable_cons hne, Bool.and_eq_true] at h
        rw [List.dropLast_cons_of_ne_nil hne]
        exact List.forall_mem_cons.mpr ⟨Scan.separatesAt_iff.mp h.1, ih h.2⟩

/-- Patterns that leave nothing open are found again in the group that they
are written into; the last one has no comma behind it. -/
theorem splitPatterns_joinWithCommas_of_outside {ps : List (List Char)} (hne : ps ≠ [])
    (hps : ∀ p ∈ ps, UnsplitFrom .start p)
    (hout : ∀ p ∈ ps.dropLast, (Scan.start.after p).Outside) :
    splitPatterns (joinWithCommas ps) = ps := by
  induction ps, hne using List.recNeNil with
  | singleton p => exact splitFrom_of_unsplit (hps p (List.mem_singleton_self p))
  | cons p ps hne ih =>
      obtain ⟨hp, hps⟩ := List.forall_mem_cons.mp hps
      rw [List.dropLast_cons_of_ne_nil hne] at hout
      obtain ⟨hsep, hout⟩ := List.forall_mem_cons.mp hout
      have hstart := Scan.after_eq_start_iff.mpr (Scan.separatesAt_iff.mpr hsep)
      rw [joinWithCommas_cons hne, splitPatterns_comma hp hstart, ih hps hout]

/-- Joinable patterns are found again in the group that they are written
into. -/
theorem splitPatterns_joinWithCommas {ps : List (List Char)} (hne : ps ≠ [])
    (hps : ∀ p ∈ ps, UnsplitFrom .start p) (hjoin : joinable ps = true) :
    splitPatterns (joinWithCommas ps) = ps :=
  splitPatterns_joinWithCommas_of_outside hne hps (outside_of_joinable hjoin)

/-! ## Splitting and joining are inverse

A group determines its patterns and they determine the group. What singles
the patterns out among all texts that are the group when they are joined is
that none of them splits, and that each but the last leaves nothing open. -/

theorem splitPatterns_eq_singleton_iff {p : List Char} :
    splitPatterns p = [p] ↔ UnsplitFrom .start p := by
  constructor
  · intro h
    have hp : p ∈ splitPatterns p := by
      rw [h]
      exact List.mem_singleton_self p
    exact splitPatterns_unsplit hp
  · exact splitFrom_of_unsplit

theorem joinWithCommas_splitPatterns (group : List Char) :
    joinWithCommas (splitPatterns group) = group := by
  induction group using group_induction with
  | one p hp =>
      rw [splitPatterns_eq_singleton_iff.mpr hp]
      rfl
  | more p ys hp hstart ih =>
      rw [splitPatterns_comma hp hstart, joinWithCommas_cons (splitPatterns_ne_nil ys), ih]

/-- A pattern with a comma behind it leaves nothing open, or the comma would
not have separated. -/
theorem outside_of_splitPatterns (group : List Char) :
    ∀ p ∈ (splitPatterns group).dropLast, (Scan.start.after p).Outside := by
  induction group using group_induction with
  | one p hp =>
      rw [splitPatterns_eq_singleton_iff.mpr hp]
      exact List.forall_mem_nil _
  | more p ys hp hstart ih =>
      rw [splitPatterns_comma hp hstart, List.dropLast_cons_of_ne_nil (splitPatterns_ne_nil ys)]
      have hout := Scan.separatesAt_iff.mp (Scan.after_eq_start_iff.mp hstart)
      exact List.forall_mem_cons.mpr ⟨hout, ih⟩

/-- Splitting loses nothing and leaves nothing to split, and texts that do not
split are found again in the group that they are joined to exactly if each but
the last leaves the scanner outside of everything. -/
theorem splitPatterns_inverts_joining :
    (∀ group, joinWithCommas (splitPatterns group) = group) ∧
      (∀ group, ∀ p ∈ splitPatterns group, splitPatterns p = [p]) ∧
      ∀ ps, ps ≠ [] → (∀ p ∈ ps, splitPatterns p = [p]) →
        (splitPatterns (joinWithCommas ps) = ps ↔
          ∀ p ∈ ps.dropLast, (Scan.start.after p).Outside) := by
  refine ⟨joinWithCommas_splitPatterns, ?_, ?_⟩
  · intro group p hp
    exact splitPatterns_eq_singleton_iff.mpr (splitPatterns_unsplit hp)
  · intro ps hne hps
    constructor
    · intro h
      rw [← h]
      exact outside_of_splitPatterns _
    · intro hout
      have hunsplit : ∀ p ∈ ps, UnsplitFrom .start p := fun p hp =>
        splitPatterns_eq_singleton_iff.mp (hps p hp)
      exact splitPatterns_joinWithCommas_of_outside hne hunsplit hout

/-- A class with a bracket and a comma in it, a group of characters of two
bytes and with a counted repetition, an escaped comma, and at the end a class
that is never closed. -/
theorem splitPatterns_inverts_joining_of_open_end :
    let ps := ["^[],(]$".toList, "(é,ü\x7b1,2\x7d)\\,".toList, "[^],b".toList]
    (∀ p ∈ ps, splitPatterns p = [p]) ∧ (∀ p ∈ ps.dropLast, (Scan.start.after p).Outside) ∧
      splitPatterns (joinWithCommas ps) = ps := by
  intro ps
  have hps : ∀ p ∈ ps, splitPatterns p = [p] := by decide
  have hout : ∀ p ∈ ps.dropLast, (Scan.start.after p).Outside := by decide
  obtain ⟨-, -, hjoining⟩ := splitPatterns_inverts_joining
  exact ⟨hps, hout, (hjoining ps (List.cons_ne_nil _ _) hps).mpr hout⟩

end NodeSieve.Definition
