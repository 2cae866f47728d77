import Mathlib.Data.List.Induction
import Mathlib.Data.List.Nodup
import Mathlib.Data.List.Perm.Basic
import NodeSieve.Document.Codec

/-!
# First occurrences

Mixin types are a set that is kept as a list, and there are two ways to make
it. A resource that is told one type after another adds each that it does not
have. A document lists them all at once, and what stands in the list already
is taken out of it in place.

Both go through what they are given from left to right, and both hold the
first occurrences of what they have gone through. So one step lemma serves
both: a text that was seen before changes nothing, and a new one goes to the
end. For the list in a document, the part in front of the index is what is
held and the part behind it is what is still to come; a member that is taken
out moves neither, which is why the index may stay.
-/

namespace NodeSieve

/-- The members of `xs`, each listed once, in the order in which they first
occur. -/
structure FirstOccurrences (xs ys : List String) : Prop where
  nodup : ys.Nodup
  mem_iff : ∀ text, text ∈ ys ↔ text ∈ xs
  ordered : ys.Pairwise fun a b => xs.idxOf a < xs.idxOf b

namespace FirstOccurrences

variable {xs ys zs : List String} {text : String}

theorem nil : FirstOccurrences [] [] :=
  ⟨List.nodup_nil, fun _ => Iff.rfl, List.Pairwise.nil⟩

/-- What is behind a list does not move the places of its members. -/
theorem ordered_append (h : FirstOccurrences xs ys) (more : List String) :
    ys.Pairwise fun a b => (xs ++ more).idxOf a < (xs ++ more).idxOf b := by
  refine h.ordered.imp_of_mem fun {a b} ha hb hlt => ?_
  rwa [List.idxOf_append_of_mem ((h.mem_iff a).mp ha),
    List.idxOf_append_of_mem ((h.mem_iff b).mp hb)]

theorem concat_of_mem (h : FirstOccurrences xs ys) (htext : text ∈ ys) :
    FirstOccurrences (xs ++ [text]) ys where
  nodup := h.nodup
  mem_iff other := by
    rw [List.mem_append, List.mem_singleton, h.mem_iff]
    refine ⟨.inl, fun hother => hother.elim id ?_⟩
    rintro rfl
    exact (h.mem_iff _).mp htext
  ordered := h.ordered_append [text]

theorem concat_of_not_mem (h : FirstOccurrences xs ys) (htext : text ∉ ys) :
    FirstOccurrences (xs ++ [text]) (ys ++ [text]) where
  nodup := h.nodup.append (List.nodup_singleton text) (List.disjoint_singleton.mpr htext)
  mem_iff other := by rw [List.mem_append, List.mem_append, h.mem_iff]
  ordered := by
    refine List.pairwise_append.mpr ⟨h.ordered_append [text], List.pairwise_singleton _ _, ?_⟩
    intro a ha b hb
    have hbefore : a ∈ xs := (h.mem_iff a).mp ha
    have hbehind : text ∉ xs := fun hmem => htext ((h.mem_iff text).mpr hmem)
    rw [List.mem_singleton.mp hb, List.idxOf_append_of_mem hbefore,
      List.idxOf_append_of_notMem hbehind]
    exact Nat.lt_of_lt_of_le (List.idxOf_lt_length_of_mem hbefore) (Nat.le_add_right _ _)

/-- There is one way only to list the first occurrences. -/
theorem unique (h : FirstOccurrences xs ys) (h' : FirstOccurrences xs zs) : ys = zs := by
  have hperm : ys.Perm zs :=
    (List.perm_ext_iff_of_nodup h.nodup h'.nodup).mpr fun text =>
      (h.mem_iff text).trans (h'.mem_iff text).symm
  exact hperm.eq_of_pairwise (fun _ _ _ _ hlt hgt => absurd hlt (Nat.lt_asymm hgt)) h.ordered
    h'.ordered

theorem of_nodup (h : xs.Nodup) : FirstOccurrences xs xs := by
  induction xs using List.reverseRecOn with
  | nil => exact .nil
  | append_singleton xs text ih =>
      obtain ⟨hxs, -, hdisjoint⟩ := List.nodup_append'.mp h
      exact (ih hxs).concat_of_not_mem (List.disjoint_singleton.mp hdisjoint)

/-! ## A resource that is told its types -/

theorem withMixinType {r : Resource} (h : FirstOccurrences xs r.mixinTypes) (mixinType : String) :
    FirstOccurrences (xs ++ [mixinType]) (r.withMixinType mixinType).mixinTypes := by
  rw [Resource.withMixinType]
  split
  · next hmem => exact h.concat_of_mem hmem
  · next hnew => exact h.concat_of_not_mem hnew

theorem withMixinTypes {r : Resource} (h : FirstOccurrences xs r.mixinTypes)
    (mixinTypes : List String) :
    FirstOccurrences (xs ++ mixinTypes) (r.withMixinTypes mixinTypes).mixinTypes := by
  rw [Resource.withMixinTypes]
  induction mixinTypes generalizing xs r with
  | nil => rwa [List.append_nil]
  | cons mixinType mixinTypes ih =>
      rw [List.append_cons]
      exact ih (h.withMixinType mixinType)

/-! ## A list that is gone through in place -/

/-- Going through the rest of a list. -/
theorem eraseRepeats {seen kept : List String} (h : FirstOccurrences seen kept)
    (rest : List String) :
    FirstOccurrences (seen ++ rest) (Document.eraseRepeats kept.length (kept ++ rest)) := by
  induction rest generalizing seen kept with
  | nil => rwa [List.append_nil, List.append_nil, Document.eraseRepeats_end]
  | cons text rest ih =>
      rw [Document.eraseRepeats_append_cons, List.append_cons seen]
      split
      · next hmem => exact ih (h.concat_of_mem hmem)
      · next hnew => exact ih (h.concat_of_not_mem hnew)

end FirstOccurrences

namespace Document

theorem firstOccurrences_eraseRepeats (xs : List String) :
    FirstOccurrences xs (eraseRepeats 0 xs) :=
  FirstOccurrences.nil.eraseRepeats xs

theorem eraseRepeats_of_nodup {xs : List String} (h : xs.Nodup) : eraseRepeats 0 xs = xs :=
  (firstOccurrences_eraseRepeats xs).unique (.of_nodup h)

end Document

end NodeSieve
