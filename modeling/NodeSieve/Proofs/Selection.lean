import NodeSieve.Proofs.History

/-!
# What a selection takes and what it draws

A selection goes through a listing until it has taken as many resources as it
may. What it takes is easy to say, the accepted resources cut off at the
limit. What it draws is not seen in the result: one resource more would change
nothing there, but it would be one more to fetch. So both are stated. The
draws end with the shortest beginning of the listing that has enough accepted
resources in it (`ShortestFront`), and go on to the end of the listing where
there are too few.

Each resource that is drawn adds itself to that beginning, and one to the
number it is the shortest for if it is accepted (`ShortestFront.cons`). That
is the step of the induction. A limit of zero is the one case in which nothing
is drawn, and it is also where every selection ends that finds enough.
-/

namespace NodeSieve

namespace Filter

/-- A beginning of a listing is the shortest one with so many accepted
resources. -/
structure ShortestFront (t : Filter) (count : Nat) (items front : List Resource) : Prop where
  starts : front <+: items
  accepted : front.countP (t.accepts ·) = count
  shortest : ∀ other, other <+: items → count ≤ other.countP (t.accepts ·) →
    front.length ≤ other.length

/-- A selection has taken the first accepted resources of a listing, up to a
limit, and has drawn those that it takes to find them. -/
structure Selects (t : Filter) (limit : Nat) (items : List Resource) (s : Selection) : Prop where
  taken : s.taken = (items.filter (t.accepts ·)).take limit
  drawn_of_zero : limit = 0 → s.drawn = 0
  drawn_of_le : limit ≤ items.countP (t.accepts ·) →
    ∃ front, t.ShortestFront limit items front ∧ s.drawn = front.length
  drawn_of_lt : items.countP (t.accepts ·) < limit → s.drawn = items.length

section

variable {t : Filter} {limit : Nat} {r : Resource} {items front : List Resource}

theorem ShortestFront.zero : t.ShortestFront 0 items [] where
  starts := List.nil_prefix
  accepted := rfl
  shortest := fun _ _ _ => Nat.zero_le _

/-- A resource in front of the listing stands in front of the beginning, which
then has one accepted resource more if it is accepted. -/
theorem ShortestFront.cons {count : Nat} (h : t.ShortestFront limit items front)
    (hcount : count = limit + if t.accepts r then 1 else 0) (hpos : 0 < count) :
    t.ShortestFront count (r :: items) (r :: front) where
  starts := List.cons_prefix_cons.mpr ⟨rfl, h.starts⟩
  accepted := by rw [List.countP_cons, h.accepted, hcount]
  shortest := by
    intro other hother hmany
    rcases List.prefix_cons_iff.mp hother with rfl | ⟨rest, rfl, hrest⟩
    · rw [List.countP_nil] at hmany
      omega
    · rw [List.countP_cons] at hmany
      have hle : limit ≤ rest.countP (t.accepts ·) := by omega
      exact Nat.succ_le_succ (h.shortest rest hrest hle)

theorem taken_select (t : Filter) (limit : Nat) (items : List Resource) :
    (t.select limit items).taken = (items.filter (t.accepts ·)).take limit := by
  fun_induction select t limit items with
  | case1 limit => rw [List.filter_nil, List.take_nil]
  | case2 r rs => rw [List.take_zero]
  | case3 r rs limit haccepts rest ih =>
      rw [List.filter_cons, if_pos haccepts, List.take_succ_cons, ← ih]
  | case4 r rs limit hrejects rest ih => rw [List.filter_cons, if_neg hrejects, ← ih]

theorem drawn_select_zero (t : Filter) (items : List Resource) :
    (t.select 0 items).drawn = 0 := by
  cases items <;> rfl

/-- Where there are enough, the draws end with the last that is taken. -/
theorem drawn_select_of_le (h : limit ≤ items.countP (t.accepts ·)) :
    ∃ front, t.ShortestFront limit items front ∧ (t.select limit items).drawn = front.length := by
  fun_induction select t limit items with
  | case1 limit =>
      obtain rfl := Nat.le_zero.mp h
      exact ⟨[], .zero, rfl⟩
  | case2 r rs => exact ⟨[], .zero, rfl⟩
  | case3 r rs limit haccepts rest ih =>
      rw [List.countP_cons, if_pos haccepts] at h
      obtain ⟨front, hfront, hdrawn⟩ := ih (Nat.le_of_succ_le_succ h)
      refine ⟨r :: front, hfront.cons ?_ (Nat.succ_pos _), congrArg (· + 1) hdrawn⟩
      rw [if_pos haccepts]
  | case4 r rs limit hrejects rest ih =>
      rw [List.countP_cons, if_neg hrejects] at h
      obtain ⟨front, hfront, hdrawn⟩ := ih h
      refine ⟨r :: front, hfront.cons ?_ (Nat.succ_pos _), congrArg (· + 1) hdrawn⟩
      rw [if_neg hrejects]

/-- Where there are too few, everything is drawn. -/
theorem drawn_select_of_lt (h : items.countP (t.accepts ·) < limit) :
    (t.select limit items).drawn = items.length := by
  fun_induction select t limit items with
  | case1 limit => rfl
  | case2 r rs => exact absurd h (Nat.not_lt_zero _)
  | case3 r rs limit haccepts rest ih =>
      rw [List.countP_cons, if_pos haccepts] at h
      exact congrArg (· + 1) (ih (Nat.lt_of_succ_lt_succ h))
  | case4 r rs limit hrejects rest ih =>
      rw [List.countP_cons, if_neg hrejects] at h
      exact congrArg (· + 1) (ih h)

theorem selects_select (t : Filter) (limit : Nat) (items : List Resource) :
    t.Selects limit items (t.select limit items) where
  taken := taken_select t limit items
  drawn_of_zero := by
    rintro rfl
    exact drawn_select_zero t items
  drawn_of_le := drawn_select_of_le
  drawn_of_lt := drawn_select_of_lt

end

end Filter

namespace NodeFilters

/-- What users see of a listing is selected by a filter and up to a limit. -/
structure Shows (filters : NodeFilters) (current : CompiledFilter) (limit : UInt64)
    (items : List Resource) : Prop where
  selects : current.root.Selects limit.toNat items (filters.visible items)
  shown : filters.selectVisible items = (items.filter (current.accepts ·)).take limit.toNat

theorem shows_current (filters : NodeFilters) (items : List Resource) :
    filters.Shows (filters.filter .default) filters.queryResultLimit items where
  selects := Filter.selects_select _ _ _
  shown := Filter.taken_select _ _ _

/-- Every selection takes the first accepted resources, up to its limit, and
draws no more than it has to. What users see is selected by the default filter
and the limit of the moment, and after an activation and any number of reloads
these are the last that were published. -/
theorem shows_first_accepted :
    (∀ (t : Filter) limit items, t.Selects limit items (t.select limit items)) ∧
      (∀ (filters : NodeFilters) items,
        filters.Shows (filters.filter .default) filters.queryResultLimit items) ∧
      ∀ first start, activate first = .ok start → ∀ changes,
        ∃ current limit,
          ((first :: changes).filterMap (·.publishes? .default)).getLast? = some current ∧
          ((first :: changes).filterMap (·.limit?)).getLast? = some limit ∧
          ∀ items, (start.run changes).Shows current limit items := by
  refine ⟨Filter.selects_select, shows_current, ?_⟩
  intro first start hstart changes
  have hrun := (follows_activate hstart).run changes
  exact ⟨_, _, hrun.published .default, hrun.limit, shows_current _⟩

/-- The limit is reached before the end of the listing, by the filter and the
limit of the first reload; the second one is refused. -/
theorem shows_first_accepted_of_reload :
    let items := [(Resource.ofPath "/a").withFolder true, .ofPath "/b",
      (Resource.ofPath "/c").withFolder true, (Resource.ofPath "/d").withFolder true]
    ∃ start after,
      activate ⟨⟨"", "", "", "", ""⟩, 9, .default, .default⟩ = .ok start ∧
        start.run [⟨⟨"", "Folder()", "", "", ""⟩, 2, .default, .default⟩,
          ⟨⟨"", "", "", "", ""⟩, 0, .default, .default⟩] = after ∧
        after.Shows ⟨"Folder()", .folder⟩ 2 items ∧
        (after.selectVisible items).map Resource.path = ["/a", "/c"] ∧
        ∃ front, Filter.ShortestFront .folder 2 items front ∧
          (after.visible items).drawn = front.length := by
  intro items
  have hactivate : (activate ⟨⟨"", "", "", "", ""⟩, 9, .default, .default⟩).map
      (fun _ => ()) = .ok () := by
    decide +kernel
  obtain ⟨start, hstart, -⟩ := map_eq_ok_iff.mp hactivate
  obtain ⟨-, -, hruns⟩ := shows_first_accepted
  obtain ⟨current, limit, hcurrent, hlimit, hshows⟩ := hruns _ start hstart
    [⟨⟨"", "Folder()", "", "", ""⟩, 2, .default, .default⟩,
      ⟨⟨"", "", "", "", ""⟩, 0, .default, .default⟩]
  have hcurrent : current = ⟨"Folder()", .folder⟩ := by
    rw [← Option.some_inj, ← hcurrent]
    decide +kernel
  have hlimit : limit = 2 := by
    rw [← Option.some_inj, ← hlimit]
    decide +kernel
  subst hcurrent hlimit
  refine ⟨start, _, hstart, rfl, hshows items, ?_, ?_⟩
  · rw [(hshows items).shown]
    decide
  · exact (hshows items).selects.drawn_of_le (by decide)

end NodeFilters

end NodeSieve
