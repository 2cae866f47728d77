import NodeSieve.Proofs.Spans
import NodeSieve.Regex.Match

/-!
# The search finds what matches

The search never looks back: all it keeps of the text it has read is the last
character and the terms that may still be matched by what follows. That this
is enough is the content of two lemmas. `nullable_iff` says when a term spans
nothing, and `step_iff` says what a term that spans a character leaves to be
spanned by the rest. Both see of the text around no more than the search does,
because conditions on a place do not either.

A repetition whose body can match nothing is where the two must fit together:
the rounds that are owed then need not be spent on characters, so `step`
forgets them. This is right only where the counts are in order, for a
repetition that asks for three rounds and allows two matches nothing at all.
-/

namespace NodeSieve.Regex.Term

/-- Whether each repetition allows as many rounds as it asks for. -/
def ordered : Term → Bool
  | .cat r s => r.ordered && s.ordered
  | .alt r s => r.ordered && s.ordered
  | .repeated least most body => most.all (least ≤ ·) && body.ordered
  | _ => true

/-- A repetition in order allows the rounds that it asks for. -/
theorem allows_least {least : Nat} {most : Option Nat} (h : most.all (least ≤ ·) = true) :
    Allows least most least := by
  refine ⟨Nat.le_refl least, ?_⟩
  rintro m rfl
  exact of_decide_eq_true h

theorem nullable_iff {r : Term} (hr : r.ordered = true) {before behind : List Char} :
    r.nullable before.getLast? behind.head? = true ↔ Spans r before [] behind := by
  induction r with
  | empty => exact ⟨fun _ => .empty, fun _ => rfl⟩
  | oneOf set =>
      rw [spans_oneOf_iff, nullable]
      exact ⟨nofun, fun ⟨_, hnil, _⟩ => absurd hnil (List.cons_ne_nil _ _).symm⟩
  | look condition =>
      rw [spans_look_iff, nullable]
      exact ⟨fun h => ⟨rfl, h⟩, And.right⟩
  | cat r s ihr ihs =>
      rw [ordered, Bool.and_eq_true] at hr
      rw [nullable, Bool.and_eq_true, ihr hr.1, ihs hr.2, spans_cat_iff]
      constructor
      · intro h
        obtain ⟨hr, hs⟩ := h
        exact ⟨[], [], rfl, hr, by rwa [List.append_nil]⟩
      · intro h
        obtain ⟨y, z, hnil, hr, hs⟩ := h
        obtain ⟨rfl, rfl⟩ := List.append_eq_nil_iff.mp hnil.symm
        rw [List.append_nil] at hs
        exact ⟨hr, hs⟩
  | alt r s ihr ihs =>
      rw [ordered, Bool.and_eq_true] at hr
      rw [nullable, Bool.or_eq_true, ihr hr.1, ihs hr.2, spans_alt_iff]
  | repeated least most body ih =>
      rw [ordered, Bool.and_eq_true] at hr
      rw [nullable, Bool.or_eq_true, beq_iff_eq, ih hr.2, spans_repeated_iff]
      constructor
      · intro h
        rcases h with rfl | hbody
        · exact ⟨0, allows_least hr.1, .nil⟩
        · exact ⟨least, allows_least hr.1, .of_nil hbody least⟩
      · intro h
        obtain ⟨n, ⟨hleast, -⟩, hrounds⟩ := h
        cases n with
        | zero => exact .inl (Nat.le_zero.mp hleast)
        | succ n => exact .inr hrounds.spans_nil

theorem nullable_cons_iff {r : Term} (hr : r.ordered = true) {before behind : List Char}
    {c : Char} :
    r.nullable before.getLast? (some c) = true ↔ Spans r before [] (c :: behind) := by
  show r.nullable before.getLast? (c :: behind).head? = true ↔ _
  exact nullable_iff hr

/-! ## One character -/

theorem spans_before_iff {r s : Term} {before x behind : List Char} :
    Spans (r.before s) before x behind ↔ Spans (.cat r s) before x behind := by
  cases r with
  | empty => exact spans_empty_cat_iff.symm
  | oneOf | look | cat | alt | repeated => rfl

theorem spans_times_iff {least : Nat} {most : Option Nat} {body : Term}
    {before x behind : List Char} (hleast : most.all (least ≤ ·) = true) :
    Spans (times least most body) before x behind ↔
      Spans (.repeated least most body) before x behind := by
  rw [times]
  split
  · next hmost =>
      subst hmost
      obtain rfl : least = 0 := Nat.le_zero.mp (of_decide_eq_true hleast)
      rw [spans_empty_iff, spans_repeated_iff]
      constructor
      · intro h
        subst h
        exact ⟨0, allows_least hleast, .nil⟩
      · intro h
        obtain ⟨n, ⟨-, hn⟩, hrounds⟩ := h
        obtain rfl : n = 0 := Nat.le_zero.mp (hn 0 rfl)
        exact rounds_zero_iff.mp hrounds
  · rfl

theorem all_sub_one {least : Nat} {most : Option Nat} (h : most.all (least ≤ ·) = true) :
    (most.map (· - 1)).all (least - 1 ≤ ·) = true := by
  cases most with
  | none => rfl
  | some m =>
      have hle : least ≤ m := of_decide_eq_true h
      exact decide_eq_true (Nat.sub_le_sub_right hle 1)

/-- The rounds that are still owed behind a round that took a character. -/
theorem owed_in_order {least : Nat} {most : Option Nat} (h : most.all (least ≤ ·) = true)
    (forgets : Bool) :
    (most.map (· - 1)).all ((if forgets then 0 else least - 1) ≤ ·) = true := by
  cases forgets with
  | true => cases most <;> simp
  | false => exact all_sub_one h

/-- A repetition that takes a character takes it in a round, behind rounds
that match nothing; these have been owed, or they need not be counted. -/
theorem spans_repeated_cons_iff {least : Nat} {most : Option Nat} {body : Term}
    (hleast : most.all (least ≤ ·) = true) (hbody : body.ordered = true)
    {before x behind : List Char} {c : Char} :
    Spans (.repeated least most body) before (c :: x) behind ↔
      most ≠ some 0 ∧ ∃ y z, x = y ++ z ∧ Spans body before (c :: y) (z ++ behind) ∧
        Spans (.repeated (if body.nullable before.getLast? (some c) then 0 else least - 1)
          (most.map (· - 1)) body) (before ++ c :: y) z behind := by
  have hnull : body.nullable before.getLast? (some c) = true ↔
      Spans body before [] (c :: x ++ behind) := nullable_cons_iff hbody
  rw [spans_repeated_iff]
  constructor
  · intro h
    obtain ⟨n, ⟨hn, hmost⟩, hrounds⟩ := h
    obtain ⟨idle, n', y, z, rfl, rfl, hidle, hy, hz⟩ := hrounds.exists_taking
    refine ⟨?_, y, z, rfl, hy, spans_repeated_iff.mpr ⟨n', ⟨?_, ?_⟩, hz⟩⟩
    · intro h
      subst h
      have := hmost 0 rfl
      omega
    · split
      · exact Nat.zero_le n'
      · next hbody =>
          obtain rfl : idle = 0 :=
            Nat.eq_zero_of_not_pos fun h => hbody (hnull.mpr (hidle (Nat.ne_of_gt h)))
          omega
    · intro m hm
      obtain ⟨m', hm', rfl⟩ := Option.map_eq_some_iff.mp hm
      have := hmost m' hm'
      omega
  · intro h
    obtain ⟨hmost, y, z, rfl, hy, hz⟩ := h
    obtain ⟨n, ⟨hn, hbound⟩, hrounds⟩ := spans_repeated_iff.mp hz
    have htaken : Rounds body (n + 1) before (c :: (y ++ z)) behind := .cons hy hrounds
    have hbound : ∀ m ∈ most, n + 1 ≤ m := by
      rintro m rfl
      have hm := hbound (m - 1) rfl
      have hzero : m ≠ 0 := fun h => hmost (congrArg some h)
      omega
    by_cases hnullable : body.nullable before.getLast? (some c) = true
    · refine ⟨n + 1 + (least - (n + 1)), ⟨by omega, ?_⟩, htaken.pad (hnull.mp hnullable) _⟩
      rintro m rfl
      have hm := hbound m rfl
      have hle : least ≤ m := of_decide_eq_true hleast
      omega
    · rw [if_neg hnullable] at hn
      exact ⟨n + 1, ⟨by omega, hbound⟩, htaken⟩

/-- A row that takes a character takes it in its first term, or in the second
behind a first one that matches nothing. -/
theorem spans_cat_cons_iff {r s : Term} {before x behind : List Char} {c : Char} :
    Spans (.cat r s) before (c :: x) behind ↔
      (Spans r before [] (c :: x ++ behind) ∧ Spans s before (c :: x) behind) ∨
        ∃ y z, x = y ++ z ∧ Spans r before (c :: y) (z ++ behind) ∧
          Spans s (before ++ c :: y) z behind := by
  rw [spans_cat_iff]
  constructor
  · intro h
    obtain ⟨y, z, hcons, hy, hz⟩ := h
    cases y with
    | nil =>
        rw [List.nil_append] at hcons
        subst hcons
        rw [List.append_nil] at hz
        exact .inl ⟨hy, hz⟩
    | cons d y =>
        obtain ⟨rfl, rfl⟩ := List.cons.inj hcons
        exact .inr ⟨y, z, rfl, hy, hz⟩
  · intro h
    rcases h with ⟨hr, hs⟩ | ⟨y, z, rfl, hy, hz⟩
    · exact ⟨[], c :: x, rfl, hr, by rwa [List.append_nil]⟩
    · exact ⟨c :: y, z, rfl, hy, hz⟩

/-- What a term spans from a character on is what one of the terms that remain
of it spans behind the character. -/
theorem step_iff {r : Term} (hr : r.ordered = true) {before x behind : List Char} {c : Char} :
    Spans r before (c :: x) behind ↔
      ∃ t ∈ r.step before.getLast? c, Spans t (before ++ [c]) x behind := by
  induction r generalizing x behind with
  | empty =>
      rw [spans_empty_iff, step]
      exact ⟨nofun, nofun⟩
  | look condition =>
      rw [spans_look_iff, step]
      exact ⟨nofun, nofun⟩
  | oneOf set =>
      rw [spans_oneOf_iff, step]
      constructor
      · intro h
        obtain ⟨d, hcons, hd⟩ := h
        obtain ⟨rfl, rfl⟩ := List.cons.inj hcons
        exact ⟨.empty, by simp [hd], .empty⟩
      · intro h
        obtain ⟨t, ht, hspans⟩ := h
        split at ht
        · next hc =>
            obtain rfl := List.mem_singleton.mp ht
            obtain rfl := spans_empty_iff.mp hspans
            exact ⟨c, rfl, hc⟩
        · cases ht
  | cat r s ihr ihs =>
      rw [ordered, Bool.and_eq_true] at hr
      rw [spans_cat_cons_iff, step]
      constructor
      · intro h
        rcases h with ⟨hnil, hs⟩ | ⟨y, z, rfl, hy, hz⟩
        · obtain ⟨t, ht, hspans⟩ := (ihs hr.2).mp hs
          rw [if_pos ((nullable_cons_iff hr.1).mpr hnil)]
          exact ⟨t, List.mem_append_right _ ht, hspans⟩
        · obtain ⟨t, ht, hspans⟩ := (ihr hr.1).mp hy
          refine ⟨t.before s, List.mem_append_left _ (List.mem_map_of_mem ht), ?_⟩
          refine spans_before_iff.mpr (.cat hspans ?_)
          rwa [List.append_assoc]
      · intro h
        obtain ⟨t, ht, hspans⟩ := h
        rcases List.mem_append.mp ht with hmap | hs
        · obtain ⟨u, hu, rfl⟩ := List.mem_map.mp hmap
          obtain ⟨y, z, rfl, hy, hz⟩ := spans_cat_iff.mp (spans_before_iff.mp hspans)
          rw [List.append_assoc] at hz
          exact .inr ⟨y, z, rfl, (ihr hr.1).mpr ⟨u, hu, hy⟩, hz⟩
        · split at hs
          · next hnull =>
              exact .inl ⟨(nullable_cons_iff hr.1).mp hnull, (ihs hr.2).mpr ⟨t, hs, hspans⟩⟩
          · cases hs
  | alt r s ihr ihs =>
      rw [ordered, Bool.and_eq_true] at hr
      rw [spans_alt_iff, ihr hr.1, ihs hr.2, step]
      simp only [List.mem_append, or_and_right, exists_or]
  | repeated least most body ih =>
      rw [ordered, Bool.and_eq_true] at hr
      have howed := owed_in_order hr.1 (body.nullable before.getLast? (some c))
      rw [spans_repeated_cons_iff hr.1 hr.2, step]
      constructor
      · intro h
        obtain ⟨hmost, y, z, rfl, hy, hz⟩ := h
        obtain ⟨t, ht, hspans⟩ := (ih hr.2).mp hy
        rw [if_neg hmost]
        refine ⟨_, List.mem_map_of_mem ht, spans_before_iff.mpr (.cat hspans ?_)⟩
        rw [List.append_assoc]
        exact (spans_times_iff howed).mpr hz
      · intro h
        obtain ⟨t, ht, hspans⟩ := h
        split at ht
        · cases ht
        · next hmost =>
            obtain ⟨u, hu, rfl⟩ := List.mem_map.mp ht
            obtain ⟨y, z, rfl, hy, hz⟩ := spans_cat_iff.mp (spans_before_iff.mp hspans)
            rw [List.append_assoc] at hz
            exact ⟨hmost, y, z, rfl, (ih hr.2).mpr ⟨u, hu, hy⟩, (spans_times_iff howed).mp hz⟩

theorem ordered_catAll {rs : List Term} (h : ∀ r ∈ rs, r.ordered = true) :
    (catAll rs).ordered = true := by
  induction rs with
  | nil => rfl
  | cons r rs ih =>
      obtain ⟨hr, hrs⟩ := List.forall_mem_cons.mp h
      cases rs with
      | nil => exact hr
      | cons s ss => exact Bool.and_eq_true_iff.mpr ⟨hr, ih hrs⟩

theorem ordered_before {r s : Term} (hr : r.ordered = true) (hs : s.ordered = true) :
    (r.before s).ordered = true := by
  cases r with
  | empty => exact hs
  | oneOf | look | cat | alt | repeated =>
      exact Bool.and_eq_true_iff.mpr ⟨hr, hs⟩

theorem ordered_times {least : Nat} {most : Option Nat} {body : Term}
    (hleast : most.all (least ≤ ·) = true) (hbody : body.ordered = true) :
    (times least most body).ordered = true := by
  rw [times]
  split
  · rfl
  · exact Bool.and_eq_true_iff.mpr ⟨hleast, hbody⟩

/-- What remains of a term is in order again. -/
theorem ordered_of_mem_step {r t : Term} (hr : r.ordered = true) {previous : Option Char}
    {c : Char} (ht : t ∈ r.step previous c) : t.ordered = true := by
  induction r generalizing t with
  | empty | look => cases ht
  | oneOf set =>
      rw [step] at ht
      split at ht
      · obtain rfl := List.mem_singleton.mp ht
        rfl
      · cases ht
  | cat r s ihr ihs =>
      rw [ordered, Bool.and_eq_true] at hr
      rw [step] at ht
      rcases List.mem_append.mp ht with hmap | hs
      · obtain ⟨u, hu, rfl⟩ := List.mem_map.mp hmap
        exact ordered_before (ihr hr.1 hu) hr.2
      · split at hs
        · exact ihs hr.2 hs
        · cases hs
  | alt r s ihr ihs =>
      rw [ordered, Bool.and_eq_true] at hr
      rcases List.mem_append.mp ht with hr' | hs'
      · exact ihr hr.1 hr'
      · exact ihs hr.2 hs'
  | repeated least most body ih =>
      rw [ordered, Bool.and_eq_true] at hr
      rw [step] at ht
      split at ht
      · cases ht
      · obtain ⟨u, hu, rfl⟩ := List.mem_map.mp ht
        exact ordered_before (ih hr.2 hu) (ordered_times (owed_in_order hr.1 _) hr.2)

/-! ## The whole text -/

theorem mem_distinctFrom {bits : Nat} {rs : List (Nat × Term)} {p : Nat × Term} :
    p ∈ distinctFrom bits rs ↔ p ∈ rs := by
  induction bits generalizing rs with
  | zero => exact List.mem_eraseDups
  | succ bit ih =>
      rw [distinctFrom]
      split
      · exact List.mem_eraseDups
      · rw [List.mem_append, ih, ih, List.mem_filter, List.mem_filter, ← and_or_left]
        cases p.1.testBit bit <;> simp

theorem mem_distinct {rs : List Term} {r : Term} : r ∈ distinct rs ↔ r ∈ rs := by
  rw [distinct, List.mem_map]
  constructor
  · intro h
    obtain ⟨p, hp, rfl⟩ := h
    obtain ⟨s, hs, rfl⟩ := List.mem_map.mp (mem_distinctFrom.mp hp)
    exact hs
  · intro hr
    exact ⟨(r.weight, r), mem_distinctFrom.mpr (List.mem_map.mpr ⟨r, hr, rfl⟩), rfl⟩

/-- Some stretch at the front of a text is spanned. -/
def SpansFront (r : Term) (before cs : List Char) : Prop :=
  ∃ stretch behind, cs = stretch ++ behind ∧ Spans r before stretch behind

/-- Some stretch of a text is spanned. -/
def SpansIn (r : Term) (before cs : List Char) : Prop :=
  ∃ skipped rest, cs = skipped ++ rest ∧ SpansFront r (before ++ skipped) rest

theorem spansFront_nil_iff {r : Term} (hr : r.ordered = true) {before : List Char} :
    SpansFront r before [] ↔ r.nullable before.getLast? none = true := by
  rw [show r.nullable before.getLast? none = r.nullable before.getLast? ([] : List Char).head?
    from rfl, nullable_iff hr]
  constructor
  · intro h
    obtain ⟨stretch, behind, hnil, h⟩ := h
    obtain ⟨rfl, rfl⟩ := List.append_eq_nil_iff.mp hnil.symm
    exact h
  · intro h
    exact ⟨[], [], rfl, h⟩

theorem spansFront_cons_iff {r : Term} (hr : r.ordered = true) {before cs : List Char}
    {c : Char} :
    SpansFront r before (c :: cs) ↔ r.nullable before.getLast? (some c) = true ∨
      ∃ t ∈ r.step before.getLast? c, SpansFront t (before ++ [c]) cs := by
  constructor
  · intro h
    obtain ⟨stretch, behind, hcs, h⟩ := h
    cases stretch with
    | nil =>
        rw [List.nil_append] at hcs
        subst hcs
        exact .inl ((nullable_cons_iff hr).mpr h)
    | cons d stretch =>
        obtain ⟨rfl, rfl⟩ := List.cons.inj hcs
        obtain ⟨t, ht, hspans⟩ := (step_iff hr).mp h
        exact .inr ⟨t, ht, stretch, behind, rfl, hspans⟩
  · intro h
    rcases h with hnull | ⟨t, ht, stretch, behind, rfl, hspans⟩
    · exact ⟨[], c :: cs, rfl, (nullable_cons_iff hr).mp hnull⟩
    · exact ⟨c :: stretch, behind, rfl, (step_iff hr).mpr ⟨t, ht, hspans⟩⟩

theorem spansIn_nil_iff {r : Term} {before : List Char} :
    SpansIn r before [] ↔ SpansFront r before [] := by
  constructor
  · intro h
    obtain ⟨skipped, rest, hnil, h⟩ := h
    obtain ⟨rfl, rfl⟩ := List.append_eq_nil_iff.mp hnil.symm
    rwa [List.append_nil] at h
  · intro h
    exact ⟨[], [], rfl, by rwa [List.append_nil]⟩

theorem spansIn_cons_iff {r : Term} {before cs : List Char} {c : Char} :
    SpansIn r before (c :: cs) ↔
      SpansFront r before (c :: cs) ∨ SpansIn r (before ++ [c]) cs := by
  constructor
  · intro h
    obtain ⟨skipped, rest, hcs, h⟩ := h
    cases skipped with
    | nil =>
        rw [List.nil_append] at hcs
        subst hcs
        rw [List.append_nil] at h
        exact .inl h
    | cons d skipped =>
        obtain ⟨rfl, rfl⟩ := List.cons.inj hcs
        exact .inr ⟨skipped, rest, rfl, by rwa [List.append_assoc]⟩
  · intro h
    rcases h with h | ⟨skipped, rest, rfl, h⟩
    · exact ⟨[], c :: cs, rfl, by rwa [List.append_nil]⟩
    · exact ⟨c :: skipped, rest, rfl, by rwa [List.append_assoc] at h⟩

section

variable {live : List Term} {before cs : List Char} {c : Char}

theorem live_nil_iff (hlive : ∀ t ∈ live, t.ordered = true) :
    (∃ t ∈ live, SpansFront t before []) ↔
      live.any (·.nullable before.getLast? none) = true := by
  rw [List.any_eq_true]
  exact exists_congr fun t => and_congr_right fun ht => spansFront_nil_iff (hlive t ht)

theorem live_cons_iff (hlive : ∀ t ∈ live, t.ordered = true) :
    (∃ t ∈ live, SpansFront t before (c :: cs)) ↔
      live.any (·.nullable before.getLast? (some c)) = true ∨
        ∃ t ∈ distinct (live.flatMap (·.step before.getLast? c)),
          SpansFront t (before ++ [c]) cs := by
  rw [List.any_eq_true]
  constructor
  · intro h
    obtain ⟨t, ht, hspans⟩ := h
    rcases (spansFront_cons_iff (hlive t ht)).mp hspans with hnull | ⟨u, hu, hspans⟩
    · exact .inl ⟨t, ht, hnull⟩
    · exact .inr ⟨u, mem_distinct.mpr (List.mem_flatMap.mpr ⟨t, ht, hu⟩), hspans⟩
  · intro h
    rcases h with ⟨t, ht, hnull⟩ | ⟨u, hu, hspans⟩
    · exact ⟨t, ht, (spansFront_cons_iff (hlive t ht)).mpr (.inl hnull)⟩
    · obtain ⟨t, ht, hu⟩ := List.mem_flatMap.mp (mem_distinct.mp hu)
      exact ⟨t, ht, (spansFront_cons_iff (hlive t ht)).mpr (.inr ⟨u, hu, hspans⟩)⟩

end

/-- What the search answers from a place on: whether a match that has begun
before can be finished, or another one follows. -/
theorem search_iff {r : Term} (hr : r.ordered = true) (before : List Char) {live : List Term}
    (hlive : ∀ t ∈ live, t.ordered = true) (cs : List Char) :
    r.search before.getLast? live cs = true ↔
      (∃ t ∈ live, SpansFront t before cs) ∨ SpansIn r before cs := by
  induction cs generalizing live before with
  | nil =>
      have hterms : (∃ t ∈ r :: live, SpansFront t before []) ↔ _ :=
        live_nil_iff (List.forall_mem_cons.mpr ⟨hr, hlive⟩)
      rw [search, ← hterms, spansIn_nil_iff, or_comm]
      simp only [List.mem_cons, exists_eq_or_imp]
  | cons c cs ih =>
      have hterms : ∀ t ∈ r :: live, t.ordered = true := List.forall_mem_cons.mpr ⟨hr, hlive⟩
      have hremains : ∀ t ∈ distinct ((r :: live).flatMap (·.step before.getLast? c)),
          t.ordered = true := by
        intro t ht
        obtain ⟨u, hu, ht⟩ := List.mem_flatMap.mp (mem_distinct.mp ht)
        exact ordered_of_mem_step (hterms u hu) ht
      have hrest := ih (before ++ [c]) hremains
      rw [List.getLast?_concat] at hrest
      rw [search, Bool.or_eq_true, hrest, ← or_assoc, ← live_cons_iff hterms,
        spansIn_cons_iff, ← or_assoc]
      simp only [List.mem_cons, exists_eq_or_imp]
      rw [or_comm (a := SpansFront r before (c :: cs))]

/-- The search answers whether a text has a stretch that matches. -/
theorem isMatch_iff {r : Term} (hr : r.ordered = true) (text : List Char) :
    r.isMatch text = true ↔ r.Matches text := by
  have hsearch : r.isMatch text = true ↔ _ := search_iff hr [] (List.forall_mem_nil _) text
  rw [hsearch]
  constructor
  · intro h
    rcases h with ⟨t, ht, -⟩ | ⟨skipped, rest, rfl, stretch, behind, rfl, h⟩
    · cases ht
    · exact ⟨skipped, stretch, behind, (List.append_assoc ..).symm, h⟩
  · intro h
    obtain ⟨skipped, stretch, behind, rfl, h⟩ := h
    exact .inr ⟨skipped, stretch ++ behind, List.append_assoc .., stretch, behind, rfl, h⟩

end NodeSieve.Regex.Term
