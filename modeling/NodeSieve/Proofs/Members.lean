import Mathlib.Data.List.Forall2

/-!
# Lists, member by member

What is done to a list here is nearly always done to its members one by one,
and the result is again a list. So most of what is known of the two comes from
the correspondence of their members. This file has what follows from such a
correspondence, whatever the members are; nothing in it is about filters.

Both sides of a correspondence are read alike: `exists_mem_of_forall₂` finds
the partner of a member, and with the correspondence flipped it finds the
member behind a partner. The laws for `∀` and `∃` need no more than that.
-/

namespace NodeSieve

variable {α β γ : Type}

section

variable {rel : α → β → Prop} {as : List α} {bs : List β}

theorem exists_mem_of_forall₂ (h : List.Forall₂ rel as bs) {a : α} (ha : a ∈ as) :
    ∃ b ∈ bs, rel a b := by
  induction h with
  | nil => cases ha
  | @cons a' b as bs hb _ ih =>
      rcases List.mem_cons.mp ha with rfl | ha
      · exact ⟨b, List.mem_cons_self .., hb⟩
      · obtain ⟨b', hmem, hb'⟩ := ih ha
        exact ⟨b', List.mem_cons_of_mem b hmem, hb'⟩

theorem forall_of_forall₂ {good : β → Prop} (h : List.Forall₂ rel as bs)
    (hone : ∀ a ∈ as, ∀ b, rel a b → good b) : ∀ b ∈ bs, good b := by
  intro b hb
  obtain ⟨a, ha, hab⟩ := exists_mem_of_forall₂ h.flip hb
  exact hone a ha b hab

theorem forall₂_ne_nil (h : List.Forall₂ rel as bs) (hne : as ≠ []) : bs ≠ [] := by
  cases h with
  | nil => exact absurd rfl hne
  | cons => exact List.cons_ne_nil _ _

/-- There is a partner for the whole list exactly if there is one for each
member. -/
theorem exists_forall₂_iff : (∃ bs, List.Forall₂ rel as bs) ↔ ∀ a ∈ as, ∃ b, rel a b := by
  induction as with
  | nil => exact ⟨fun _ => List.forall_mem_nil _, fun _ => ⟨[], .nil⟩⟩
  | cons a as ih =>
      rw [List.forall_mem_cons, ← ih]
      constructor
      · intro h
        obtain ⟨bs, hbs⟩ := h
        obtain ⟨b, rest, hb, hrest, -⟩ := List.forall₂_cons_left_iff.mp hbs
        exact ⟨⟨b, hb⟩, rest, hrest⟩
      · intro h
        obtain ⟨⟨b, hb⟩, rest, hrest⟩ := h
        exact ⟨b :: rest, .cons hb hrest⟩

/-! ## Two lists that say the same -/

section

variable {p : α → Prop} {q : β → Prop}

theorem forall_mem_congr (h : List.Forall₂ rel as bs)
    (hone : ∀ a ∈ as, ∀ b, rel a b → (q b ↔ p a)) : (∀ b ∈ bs, q b) ↔ ∀ a ∈ as, p a := by
  constructor
  · intro hall a ha
    obtain ⟨b, hb, hab⟩ := exists_mem_of_forall₂ h ha
    exact (hone a ha b hab).mp (hall b hb)
  · intro hall
    exact forall_of_forall₂ h fun a ha b hab => (hone a ha b hab).mpr (hall a ha)

theorem exists_mem_congr (h : List.Forall₂ rel as bs)
    (hone : ∀ a ∈ as, ∀ b, rel a b → (q b ↔ p a)) : (∃ b ∈ bs, q b) ↔ ∃ a ∈ as, p a := by
  constructor
  · intro hsome
    obtain ⟨b, hb, hq⟩ := hsome
    obtain ⟨a, ha, hab⟩ := exists_mem_of_forall₂ h.flip hb
    exact ⟨a, ha, (hone a ha b hab).mp hq⟩
  · intro hsome
    obtain ⟨a, ha, hp⟩ := hsome
    obtain ⟨b, hb, hab⟩ := exists_mem_of_forall₂ h ha
    exact ⟨b, hb, (hone a ha b hab).mpr hp⟩

end

/-- Lists that correspond to one list correspond to each other. -/
theorem forall₂_of_common {rel' : α → γ → Prop} {common : β → γ → Prop} {cs : List γ}
    (h : List.Forall₂ rel as bs) (h' : List.Forall₂ rel' as cs)
    (hone : ∀ a ∈ as, ∀ b c, rel a b → rel' a c → common b c) : List.Forall₂ common bs cs := by
  induction h generalizing cs with
  | nil =>
      cases h'
      exact .nil
  | cons hab _ ih =>
      cases h' with
      | cons hac hrest =>
          obtain ⟨ha, has⟩ := List.forall_mem_cons.mp hone
          exact .cons (ha _ _ hab hac) (ih hrest has)

end

theorem eq_of_forall₂ {rel : α → α → Prop} {as bs : List α} (h : List.Forall₂ rel as bs)
    (hone : ∀ a ∈ as, ∀ b ∈ bs, rel a b → a = b) : as = bs := by
  induction h with
  | nil => rfl
  | cons hab _ ih =>
      have hfirst := hone _ (List.mem_cons_self ..) _ (List.mem_cons_self ..) hab
      rw [hfirst, ih fun a ha b hb => hone a (List.mem_cons_of_mem _ ha) b
        (List.mem_cons_of_mem _ hb)]

/-! ## Lists that are gone through -/

theorem mapM_eq_some_iff {read : α → Option β} {as : List α} {bs : List β} :
    as.mapM read = some bs ↔ List.Forall₂ (fun a b => read a = some b) as bs := by
  induction as generalizing bs with
  | nil =>
      rw [List.mapM_nil, List.forall₂_nil_left_iff, Option.pure_def, Option.some.injEq]
      exact eq_comm
  | cons a as ih =>
      rw [List.mapM_cons, List.forall₂_cons_left_iff]
      simp only [Option.bind_eq_bind, Option.bind_eq_some_iff, Option.pure_def,
        Option.some.injEq, ih]
      constructor
      · intro h
        obtain ⟨b, hb, rest, hrest, rfl⟩ := h
        exact ⟨b, rest, hb, hrest, rfl⟩
      · intro h
        obtain ⟨b, rest, hb, hrest, rfl⟩ := h
        exact ⟨b, hb, rest, hrest, rfl⟩

theorem findSome?_flatMap (as : List α) (f : α → List β) (p : β → Option γ) :
    (as.flatMap f).findSome? p = as.findSome? fun a => (f a).findSome? p := by
  simp only [← List.head?_filterMap, List.filterMap_flatMap, List.head?_flatMap]

theorem filterMap_concat (f : α → Option β) (as : List α) (a : α) :
    (as ++ [a]).filterMap f = as.filterMap f ++ (f a).toList := by
  rw [List.filterMap_append]
  cases h : f a <;> simp [h]

theorem getLast?_append_toList {as : List α} {last : α} (h : as.getLast? = some last)
    (next : Option α) : (as ++ next.toList).getLast? = some (next.getD last) := by
  cases next with
  | none => rwa [Option.toList_none, List.append_nil]
  | some a => exact List.getLast?_concat

end NodeSieve
