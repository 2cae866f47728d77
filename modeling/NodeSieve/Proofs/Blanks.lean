import NodeSieve.Unicode.Blank

/-!
# Runs of blanks

Readers skip blanks and groups trim them. Both come down to one fact each: a
text is a run of blanks in front of what `dropBlanks` leaves, and it is what
`trimBlanks` leaves between two such runs. Neither goes on once it is done, so
trimming twice is trimming once.
-/

namespace NodeSieve.Unicode

/-- A run of blanks, which may be empty. -/
def AllBlank (cs : List Char) : Prop :=
  ∀ c ∈ cs, isBlank c = true

theorem toNat_of_isBlank {c : Char} (h : isBlank c = true) :
    c.toNat ≤ 32 ∨ 133 ≤ c.toNat := by
  simp only [isBlank, Bool.or_eq_true, Bool.and_eq_true, decide_eq_true_eq,
    beq_iff_eq] at h
  omega

theorem AllBlank.nil : AllBlank [] := by
  intro c hc
  exact absurd hc (List.not_mem_nil)

theorem allBlank_cons {c : Char} {cs : List Char} :
    AllBlank (c :: cs) ↔ isBlank c = true ∧ AllBlank cs :=
  List.forall_mem_cons

theorem AllBlank.append {xs ys : List Char} (hx : AllBlank xs) (hy : AllBlank ys) :
    AllBlank (xs ++ ys) := by
  intro c hc
  rcases List.mem_append.mp hc with h | h
  · exact hx c h
  · exact hy c h

/-! ## Leading blanks -/

theorem exists_eq_append_dropBlanks (cs : List Char) :
    ∃ u, AllBlank u ∧ cs = u ++ dropBlanks cs :=
  ⟨cs.takeWhile isBlank, List.all_eq_true.mp List.all_takeWhile,
    List.takeWhile_append_dropWhile.symm⟩

theorem dropBlanks_append {u cs : List Char} (hu : AllBlank u) :
    dropBlanks (u ++ cs) = dropBlanks cs :=
  List.dropWhile_append_of_pos hu

theorem dropBlanks_cons_of_not_blank {c : Char} {cs : List Char} (h : isBlank c = false) :
    dropBlanks (c :: cs) = c :: cs :=
  List.dropWhile_cons_of_neg (by rw [h]; exact Bool.false_ne_true)

theorem dropBlanks_append_cons {u cs : List Char} {c : Char} (hu : AllBlank u)
    (h : isBlank c = false) : dropBlanks (u ++ c :: cs) = c :: cs := by
  rw [dropBlanks_append hu, dropBlanks_cons_of_not_blank h]

/-- A character that is no blank ends the leading blanks, whatever stands in
front of it. -/
theorem dropBlanks_append_cons_eq {xs ys : List Char} {c : Char} (h : isBlank c = false) :
    dropBlanks (xs ++ c :: ys) = dropBlanks xs ++ c :: ys := by
  rw [dropBlanks, List.dropWhile_append]
  split
  · next hnil =>
      rw [List.isEmpty_iff] at hnil
      rw [show dropBlanks xs = [] from hnil]
      exact dropBlanks_cons_of_not_blank h
  · rfl

theorem not_blank_of_dropBlanks_eq_cons {cs rest : List Char} {c : Char}
    (h : dropBlanks cs = c :: rest) : isBlank c = false := by
  have hhead := List.head?_dropWhile_not isBlank cs
  rw [show cs.dropWhile isBlank = c :: rest from h] at hhead
  exact hhead

theorem dropBlanks_eq_nil_iff {cs : List Char} : dropBlanks cs = [] ↔ AllBlank cs := by
  constructor
  · intro h
    obtain ⟨u, hu, hcs⟩ := exists_eq_append_dropBlanks cs
    rw [h, List.append_nil] at hcs
    rw [hcs]
    exact hu
  · intro h
    rw [← List.append_nil cs, dropBlanks_append h]
    rfl

theorem dropBlanks_dropBlanks (cs : List Char) : dropBlanks (dropBlanks cs) = dropBlanks cs := by
  cases h : dropBlanks cs with
  | nil => rfl
  | cons c rest => exact dropBlanks_cons_of_not_blank (not_blank_of_dropBlanks_eq_cons h)

/-! ## Trailing blanks -/

theorem dropTrailingBlanks_of_allBlank {cs : List Char} (h : AllBlank cs) :
    dropTrailingBlanks cs = [] := by
  induction cs with
  | nil => rfl
  | cons c cs ih =>
      obtain ⟨hc, hcs⟩ := allBlank_cons.mp h
      rw [dropTrailingBlanks, ih hcs]
      exact if_pos hc

theorem dropTrailingBlanks_cons {c : Char} {cs : List Char}
    (h : isBlank c = false ∨ dropTrailingBlanks cs ≠ []) :
    dropTrailingBlanks (c :: cs) = c :: dropTrailingBlanks cs := by
  rw [dropTrailingBlanks]
  split
  · next hnil =>
      rw [hnil]
      rcases h with hc | hne
      · rw [if_neg (by rw [hc]; exact Bool.false_ne_true)]
      · exact absurd hnil hne
  · rfl

theorem exists_eq_dropTrailingBlanks_append (cs : List Char) :
    ∃ v, AllBlank v ∧ cs = dropTrailingBlanks cs ++ v := by
  induction cs with
  | nil => exact ⟨[], AllBlank.nil, rfl⟩
  | cons c cs ih =>
      obtain ⟨v, hv, hcs⟩ := ih
      by_cases h : isBlank c = false ∨ dropTrailingBlanks cs ≠ []
      · refine ⟨v, hv, ?_⟩
        rw [dropTrailingBlanks_cons h, List.cons_append, ← hcs]
      · rw [not_or, Bool.not_eq_false, Classical.not_not] at h
        rw [h.2, List.nil_append] at hcs
        have hall : AllBlank (c :: cs) := allBlank_cons.mpr ⟨h.1, hcs ▸ hv⟩
        refine ⟨c :: cs, hall, ?_⟩
        rw [dropTrailingBlanks_of_allBlank hall, List.nil_append]

theorem dropTrailingBlanks_append {cs v : List Char} (hv : AllBlank v) :
    dropTrailingBlanks (cs ++ v) = dropTrailingBlanks cs := by
  induction cs with
  | nil => exact dropTrailingBlanks_of_allBlank hv
  | cons c cs ih => rw [List.cons_append, dropTrailingBlanks, dropTrailingBlanks, ih]

/-- What stands in front of a character that is no blank is kept. -/
theorem dropTrailingBlanks_append_cons {xs ys : List Char} {c : Char} (h : isBlank c = false) :
    dropTrailingBlanks (xs ++ c :: ys) = xs ++ c :: dropTrailingBlanks ys := by
  induction xs with
  | nil => exact dropTrailingBlanks_cons (.inl h)
  | cons x xs ih =>
      have hne : dropTrailingBlanks (xs ++ c :: ys) ≠ [] := by
        rw [ih]
        exact List.append_ne_nil_of_right_ne_nil _ (List.cons_ne_nil _ _)
      rw [List.cons_append, dropTrailingBlanks_cons (.inr hne), ih, List.cons_append]

/-! ## Both ends -/

theorem exists_eq_trimBlanks (cs : List Char) :
    ∃ u v, AllBlank u ∧ AllBlank v ∧ cs = u ++ trimBlanks cs ++ v := by
  obtain ⟨u, hu, hcs⟩ := exists_eq_append_dropBlanks cs
  obtain ⟨v, hv, hdrop⟩ := exists_eq_dropTrailingBlanks_append (dropBlanks cs)
  refine ⟨u, v, hu, hv, ?_⟩
  rw [List.append_assoc]
  exact hcs.trans (congrArg (u ++ ·) hdrop)

theorem trimBlanks_append {u cs v : List Char} (hu : AllBlank u) (hv : AllBlank v) :
    trimBlanks (u ++ cs ++ v) = trimBlanks cs := by
  rw [trimBlanks, trimBlanks, List.append_assoc, dropBlanks_append hu]
  cases h : dropBlanks cs with
  | nil =>
      have hcs : AllBlank (cs ++ v) := (dropBlanks_eq_nil_iff.mp h).append hv
      rw [dropBlanks_eq_nil_iff.mpr hcs]
  | cons c rest =>
      obtain ⟨w, hw, hcs⟩ := exists_eq_append_dropBlanks cs
      rw [h] at hcs
      have hc := not_blank_of_dropBlanks_eq_cons h
      rw [hcs, List.append_assoc, List.cons_append, dropBlanks_append_cons hw hc,
        ← List.cons_append, dropTrailingBlanks_append hv]

theorem trimBlanks_trimBlanks (cs : List Char) :
    trimBlanks (trimBlanks cs) = trimBlanks cs := by
  obtain ⟨u, v, hu, hv, hcs⟩ := exists_eq_trimBlanks cs
  rw [← trimBlanks_append hu hv, ← hcs]

/-- A text that trimming leaves alone and that is not empty starts with a
character that is no blank. -/
theorem not_blank_of_trimBlanks_eq_cons {cs rest : List Char} {c : Char}
    (h : trimBlanks cs = c :: rest) : isBlank c = false := by
  rw [trimBlanks] at h
  cases hdrop : dropBlanks cs with
  | nil =>
      rw [hdrop] at h
      exact absurd h (List.cons_ne_nil _ _).symm
  | cons d ds =>
      have hd := not_blank_of_dropBlanks_eq_cons hdrop
      rw [hdrop, dropTrailingBlanks_cons (.inl hd)] at h
      rw [← (List.cons.inj h).1]
      exact hd

theorem trimBlanks_length_le (cs : List Char) : (trimBlanks cs).length ≤ cs.length := by
  obtain ⟨u, v, -, -, hcs⟩ := exists_eq_trimBlanks cs
  have hlength := congrArg List.length hcs
  rw [List.length_append, List.length_append] at hlength
  omega

theorem exists_last_of_trimBlanks_eq {cs : List Char} (hne : cs ≠ [])
    (h : trimBlanks cs = cs) : ∃ init d, cs = init ++ [d] ∧ isBlank d = false := by
  obtain ⟨init, d, hcs⟩ := (List.eq_nil_or_concat cs).resolve_left hne
  rw [List.concat_eq_append] at hcs
  subst hcs
  refine ⟨init, d, rfl, ?_⟩
  cases hd : isBlank d with
  | false => rfl
  | true =>
      have htrim : trimBlanks ([] ++ init ++ [d]) = trimBlanks init :=
        trimBlanks_append AllBlank.nil (allBlank_cons.mpr ⟨hd, AllBlank.nil⟩)
      rw [List.nil_append, h] at htrim
      have hlength := trimBlanks_length_le init
      rw [← htrim, List.length_append] at hlength
      exact absurd hlength (Nat.not_succ_le_self _)

/-- A text with no blank at either end is trimmed. -/
theorem trimBlanks_of_ends {init cs : List Char} {c d : Char} (hc : isBlank c = false)
    (hd : isBlank d = false) (h : c :: cs = init ++ [d]) : trimBlanks (c :: cs) = c :: cs := by
  rw [trimBlanks, dropBlanks_cons_of_not_blank hc, h, dropTrailingBlanks_append_cons hd]
  rfl

end NodeSieve.Unicode
