import NodeSieve.Proofs.Tracking

/-!
# The scanner in a bracketed class

The reader of a class keeps a stack of the classes that are open, the scanner
their number. The two agree as long as every opening bracket that the scanner
sees opens a class and every closing one ends one. The exceptions are at the
start of a class, where the scanner keeps a little memory to get them right,
in the name of an ASCII class, where brackets come in a pair, and at the end
of a range, where the reader takes an opening bracket as it is and the scanner
does not. Items without that last one are `Tame`.
-/

namespace NodeSieve.Regex

open NodeSieve.Definition NodeSieve.Definition.Scan NodeSieve.Unicode

/-! ## Bracketed classes -/

/-- The items of a class, at any depth. -/
inductive ClassSet.Has : ClassSet → ClassItem → Prop
  | item (i : ClassItem) : Has (.item i) i
  | left {kind : ClassOp} {left right : ClassSet} {i : ClassItem} (h : Has left i) :
      Has (.op kind left right) i
  | right {kind : ClassOp} {left right : ClassSet} {i : ClassItem} (h : Has right i) :
      Has (.op kind left right) i
  | union {set : ClassSet} {items : List ClassItem} {i : ClassItem} (h : Has set (.union items))
      (hi : i ∈ items) : Has set i
  | bracketed {set inner : ClassSet} {negated : Bool} {i : ClassItem}
      (h : Has set (.bracketed negated inner)) (hi : Has inner i) : Has set i

theorem ClassFrame.has_of_mem {frame : ClassFrame} {i : ClassItem} (hi : i ∈ frame.items) :
    frame.set.Has i := by
  have hitem : (ClassSet.item (.ofList frame.items.reverse)).Has i := by
    have hi := List.mem_reverse.mpr hi
    cases hitems : frame.items.reverse with
    | nil =>
        rw [hitems] at hi
        cases hi
    | cons j js =>
        rw [hitems] at hi
        cases js with
        | nil =>
            rw [List.mem_singleton.mp hi]
            exact .item j
        | cons k ks => exact .union (.item _) hi
  rw [ClassFrame.set]
  split
  · exact hitem
  · exact .right hitem

/-- What has been read of a class is part of a whole. -/
structure ClassFrame.Within (set : ClassSet) (frame : ClassFrame) : Prop where
  items : ∀ i ∈ frame.items, set.Has i
  left : ∀ p ∈ frame.left, ∀ i, p.1.Has i → set.Has i

theorem ClassFrame.within_of_set {set : ClassSet} {frame : ClassFrame}
    (h : ∀ i, frame.set.Has i → set.Has i) : frame.Within set := by
  refine ⟨fun i hi => h i (frame.has_of_mem hi), ?_⟩
  intro p hp i hi
  refine h i ?_
  rw [ClassFrame.set, hp]
  exact .left hi

theorem ClassFrame.Within.of_push {set : ClassSet} {frame : ClassFrame} {item : ClassItem}
    (h : (frame.push item).Within set) : frame.Within set ∧ set.Has item :=
  ⟨⟨fun i hi => h.items i (List.mem_cons_of_mem item hi), h.left⟩,
    h.items item (List.mem_cons_self ..)⟩

theorem ClassFrame.Within.of_operate {set : ClassSet} {frame : ClassFrame} {op : ClassOp}
    (h : (frame.operate op).Within set) : frame.Within set :=
  within_of_set (h.left _ rfl)

/-- All that a reader of a class has read so far is in the class at the end. -/
theorem within_of_readClassFrom {verbose : Bool} {outer : List ClassFrame} {frame : ClassFrame}
    {cs rest : List Char} {negated : Bool} {set : ClassSet}
    (h : readClassFrom verbose outer frame cs = .ok ((negated, set), rest)) :
    frame.Within set ∧ ∀ f ∈ outer, f.Within set := by
  fun_induction readClassFrom verbose outer frame cs with
  | case1 | case3 | case10 => cases h
  | case2 _ _ _ _ _ _ ih | case11 _ _ _ _ _ _ _ _ _ _ _ _ ih =>
      obtain ⟨hframe, houter⟩ := ih h
      exact ⟨hframe.of_push.1, houter⟩
  | case4 _ _ _ _ _ _ _ ih =>
      obtain ⟨-, houter⟩ := ih h
      exact List.forall_mem_cons.mp houter
  | case5 =>
      cases h
      exact ⟨ClassFrame.within_of_set fun _ hi => hi, List.forall_mem_nil _⟩
  | case6 _ _ _ _ ih =>
      obtain ⟨hparent, houter⟩ := ih h
      obtain ⟨hparent, hframe⟩ := hparent.of_push
      exact ⟨ClassFrame.within_of_set fun _ hi => .bracketed hframe hi,
        List.forall_mem_cons.mpr ⟨hparent, houter⟩⟩
  | case7 _ _ _ ih | case8 _ _ _ ih | case9 _ _ _ ih =>
      obtain ⟨hframe, houter⟩ := ih h
      exact ⟨hframe.of_operate, houter⟩

/-- What the scanner remembers of a class's opening makes no difference to the
next character. -/
def Ready (opening : ClassOpening) (cs : List Char) : Prop :=
  opening = .none ∨ ∀ c ∈ cs.head?, c ≠ ']' ∧ (c = '^' → opening = .caret)

theorem next_member {opening : ClassOpening} {depth n : Nat} {c : Char} {cs : List Char}
    (hslash : c ≠ '\\') (hopen : c ≠ '[') (hclose : c ≠ ']') (hready : Ready opening (c :: cs)) :
    (⟨false, depth + 1, opening, n⟩ : Scan).next c = steady (depth + 1) n := by
  rw [next_unescaped rfl hslash, if_neg (Nat.succ_ne_zero depth), nextInClass.eq_def]
  split
  · exact absurd rfl hopen
  · have hcaret : opening ≠ .bracket := by
      rcases hready with rfl | hhead
      · decide
      · rw [(hhead _ rfl).2 rfl]
        decide
    simp only [if_neg hcaret]
    rfl
  · exact absurd rfl hclose
  · rfl

theorem moves_member {opening : ClassOpening} {depth n : Nat} {c : Char} {cs : List Char}
    (hslash : c ≠ '\\') (hopen : c ≠ '[') (hclose : c ≠ ']') (hready : Ready opening (c :: cs)) :
    Moves ⟨false, depth + 1, opening, n⟩ [c] (steady (depth + 1) n) := by
  refine .cons (.inr ?_) ?_
  · rw [separatesAt]
    rfl
  · rw [next_member hslash hopen hclose hready]
    exact .nil

theorem moves_openClass {opening : ClassOpening} {depth n : Nat} :
    Moves ⟨false, depth, opening, n⟩ ['['] ⟨false, depth + 1, .bracket, n⟩ := by
  refine .cons (.inl (by decide)) ?_
  cases depth with
  | zero => exact .nil
  | succ depth => exact .nil

theorem moves_closeClass {depth n : Nat} :
    Moves (steady (depth + 1) n) [']'] (steady depth n) := by
  exact .cons (.inl (by decide)) .nil

theorem AsciiClass.unmarked_of_ofName? {name : String} {kind : AsciiClass}
    (h : AsciiClass.ofName? name = some kind) : Unmarked name.toList := by
  rw [AsciiClass.ofName?.eq_def] at h
  split at h
  case h_15 => cases h
  all_goals decide

theorem moves_of_readAsciiClass? {cs rest : List Char} {item : ClassItem}
    (h : readAsciiClass? cs = some (item, rest)) :
    ∃ text, cs = text ++ rest ∧ ∀ opening depth n,
      Moves ⟨false, depth + 1, opening, n⟩ ('[' :: text) (steady (depth + 1) n) := by
  rw [readAsciiClass?.eq_def] at h
  split at h
  · next tail =>
      split at h
      next negated body hbody =>
        split at h
        · next behind hdrop =>
            obtain ⟨kind, hkind, heq⟩ := Option.map_eq_some_iff.mp h
            obtain ⟨-, rfl⟩ := Prod.mk.inj heq
            have hname := AsciiClass.unmarked_of_ofName? hkind
            rw [String.toList_ofList] at hname
            obtain ⟨caret, hcaret, htail⟩ : ∃ caret, Unmarked caret ∧ tail = caret ++ body := by
              split at hbody
              · cases hbody
                exact ⟨['^'], by decide, rfl⟩
              · cases hbody
                exact ⟨[], by decide, rfl⟩
            have hsplit : body = body.takeWhile (· != ':') ++ ':' :: ']' :: behind := by
              rw [← hdrop, List.takeWhile_append_dropWhile]
            refine ⟨':' :: (caret ++ (body.takeWhile (· != ':') ++ [':'])) ++ [']'], ?_, ?_⟩
            · rw [htail]
              simp only [List.append_assoc, List.cons_append, List.nil_append]
              rw [← hsplit]
            · intro opening depth n
              have hinner : Unmarked (caret ++ (body.takeWhile (· != ':') ++ [':'])) :=
                hcaret.append (hname.append (by decide))
              have hcolon : Ready .bracket [':'] := by
                refine .inr ?_
                rintro c ⟨⟩
                decide
              have hfirst : Moves ⟨false, depth + 1 + 1, .bracket, n⟩ [':'] _ :=
                moves_member (by decide) (by decide) (by decide) hcolon
              exact moves_openClass.append
                (hfirst.append ((moves_unmarked hinner).append moves_closeClass))
        · cases h
  · cases h

theorem eq_of_readHyphens {items read : List ClassItem} {cs rest : List Char}
    (h : readHyphens false items cs = .ok (read, rest)) :
    ∃ hyphens, cs = hyphens ++ rest ∧ (∀ c ∈ hyphens, c = '-') ∧
      read.length = items.length + hyphens.length := by
  induction cs generalizing items with
  | nil =>
      rw [readHyphens] at h
      cases h
  | cons c cs ih =>
      rw [readHyphens] at h
      split at h
      · next hc =>
          obtain ⟨hyphens, hcs, hhyphens, hlength⟩ := ih h
          refine ⟨c :: hyphens, congrArg (c :: ·) hcs,
            List.forall_mem_cons.mpr ⟨hc, hhyphens⟩, ?_⟩
          rw [List.length_cons] at hlength ⊢
          omega
      · cases h
        exact ⟨[], rfl, List.forall_mem_nil _, rfl⟩

theorem moves_of_readNegation {cs body : List Char} {negated : Bool}
    (h : readNegation false cs = (negated, body)) :
    ∃ caret opening, cs = caret ++ body ∧ opening ≠ .none ∧
      (∀ c ∈ body.head?, c = '^' → opening = .caret) ∧ ∀ depth n,
        Moves ⟨false, depth + 1, .bracket, n⟩ caret ⟨false, depth + 1, opening, n⟩ := by
  rw [readNegation.eq_def] at h
  split at h
  · cases h
    refine ⟨['^'], .caret, rfl, by decide, fun _ _ _ => rfl, fun depth n => ?_⟩
    exact .cons (.inl (by decide)) .nil
  · next hcaret =>
      cases h
      refine ⟨[], .bracket, rfl, by decide, ?_, fun depth n => .nil⟩
      rintro c hc rfl
      obtain ⟨tail, htail⟩ := List.head?_eq_some_iff.mp hc
      exact absurd htail (hcaret tail)

theorem moves_hyphens {opening : ClassOpening} {hyphens : List Char} (hne : hyphens ≠ [])
    (h : ∀ c ∈ hyphens, c = '-') (depth n : Nat) :
    Moves ⟨false, depth + 1, opening, n⟩ hyphens (steady (depth + 1) n) := by
  cases hyphens with
  | nil => exact absurd rfl hne
  | cons c cs =>
      obtain ⟨rfl, hcs⟩ := List.forall_mem_cons.mp h
      have hready : Ready opening ['-'] := by
        refine .inr ?_
        rintro c ⟨⟩
        exact ⟨by decide, fun h => absurd h (by decide)⟩
      have hrest : Unmarked cs := by
        intro d hd
        rw [hcs d hd]
        decide
      exact (moves_member (by decide) (by decide) (by decide) hready).append
        (moves_unmarked hrest)

/-- The start of a class ends where the scanner is ready for its items. -/
theorem moves_of_readClassStart {cs rest : List Char} {frame : ClassFrame}
    (h : readClassStart false cs = .ok (frame, rest)) :
    ∃ text opening, cs = text ++ rest ∧ Ready opening rest ∧ ∀ depth n,
      Moves ⟨false, depth + 1, .bracket, n⟩ text ⟨false, depth + 1, opening, n⟩ := by
  rw [readClassStart, skipTrivia_false] at h
  split at h
  next negated body hnegation =>
    obtain ⟨caret, opening, rfl, hopening, hcaret, hmoves⟩ := moves_of_readNegation hnegation
    split at h
    · cases h
    · next tail hread =>
        obtain ⟨hyphens, rfl, -, hlength⟩ := eq_of_readHyphens hread
        have hnil : hyphens = [] :=
          List.eq_nil_of_length_eq_zero (by rw [List.length_nil] at hlength; omega)
        have hliteral : ∀ depth n, Moves ⟨false, depth + 1, opening, n⟩ [']']
            (steady (depth + 1) n) := by
          intro depth n
          refine .cons (.inl (by decide)) ?_
          rw [next_unescaped rfl (by decide), if_neg (Nat.succ_ne_zero depth)]
          simp only [nextInClass, if_neg hopening]
          exact .nil
        rw [skipTrivia_false] at h
        split at h
        · cases h
        · cases h
          refine ⟨caret ++ [']'], .none, ?_, .inl rfl, fun depth n => ?_⟩
          · rw [hnil, List.append_assoc]
            rfl
          · exact (hmoves depth n).append (hliteral depth n)
    · next items tail hmember hread =>
        obtain ⟨hyphens, hbody, hhyphens, hlength⟩ := eq_of_readHyphens hread
        cases h
        by_cases hnil : hyphens = []
        · subst hnil
          rw [List.nil_append] at hbody
          subst hbody
          refine ⟨caret, opening, rfl, .inr ?_, hmoves⟩
          intro c hc
          refine ⟨?_, hcaret c hc⟩
          rintro rfl
          obtain ⟨behind, hbehind⟩ := List.head?_eq_some_iff.mp hc
          exact hmember behind (List.eq_nil_of_length_eq_zero hlength) hbehind
        · refine ⟨caret ++ hyphens, .none, ?_, .inl rfl, fun depth n => ?_⟩
          · rw [hbody, List.append_assoc]
          · exact (hmoves depth n).append (moves_hyphens hnil hhyphens depth n)

/-- Whether the scanner reads an item of a class as the reader does: a property
exists, and a range does not end in a bracket that would open a class. -/
structure ClassItem.Tame (i : ClassItem) : Prop where
  found : ∀ negated query, i = .property negated query → ∃ set, query.resolve = .ok set
  range : ∀ first last, i = .range first last → last.char ≠ '['

/-- One member of a class, which is a character or an escape. -/
theorem moves_of_readClassPrimitive {cs rest : List Char} {p : Primitive}
    (h : readClassPrimitive false cs = .ok (p, rest)) (hp : p.Found)
    (hhead : ∀ c ∈ cs.head?, c ≠ '[' ∧ c ≠ ']') :
    ∃ text, cs = text ++ rest ∧ ∀ opening depth n, Ready opening cs →
      Moves ⟨false, depth + 1, opening, n⟩ text (steady (depth + 1) n) := by
  rw [readClassPrimitive.eq_def] at h
  split at h
  · cases h
  · obtain ⟨c, text, hcs, htext⟩ := escapeTail_of_readEscape h hp
    exact ⟨'\\' :: c :: text, congrArg ('\\' :: ·) hcs, fun _ _ _ _ => moves_escape htext⟩
  · next c tail hslash =>
      cases h
      obtain ⟨hopen, hclose⟩ := hhead c rfl
      exact ⟨[c], rfl, fun _ _ _ hready =>
        moves_member (fun hc => hslash hc) hopen hclose hready⟩

theorem found_of_toClassItem {p : Primitive} {i : ClassItem} (h : p.toClassItem = .ok i)
    (hi : i.Tame) : p.Found := by
  rintro negated query rfl
  cases h
  exact hi.found negated query rfl

theorem found_of_toBoundary {p : Primitive} {l : Literal} (h : p.toBoundary = .ok l) :
    p.Found := by
  rintro negated query rfl
  cases h

theorem rangeOf_eq_ok {first last : Primitive} {i : ClassItem} (h : rangeOf first last = .ok i) :
    ∃ l m, first.toBoundary = .ok l ∧ last.toBoundary = .ok m ∧ i = .range l m := by
  rw [rangeOf] at h
  split at h
  · cases h
  · next l hl =>
      split at h
      · cases h
      · next m hm =>
          split at h
          · exact ⟨l, m, hl, hm, (Except.ok.inj h).symm⟩
          · cases h

theorem moves_of_readClassItem {cs rest : List Char} {i : ClassItem}
    (h : readClassItem false cs = .ok (i, rest)) (hi : i.Tame)
    (hhead : ∀ c ∈ cs.head?, c ≠ '[' ∧ c ≠ ']') :
    ∃ text, cs = text ++ rest ∧ ∀ opening depth n, Ready opening cs →
      Moves ⟨false, depth + 1, opening, n⟩ text (steady (depth + 1) n) := by
  rw [readClassItem] at h
  split at h
  · cases h
  · next first behind hfirst =>
      rw [skipTrivia_false] at h
      split at h
      · cases h
      · next c tail =>
          split at h
          · next hmark =>
              rw [skipTrivia_false] at h
              split at h
              · cases h
              · next last behind hlast =>
                  obtain ⟨range, hrange, heq⟩ := map_eq_ok_iff.mp h
                  obtain ⟨rfl, rfl⟩ := Prod.mk.inj heq
                  obtain ⟨l, m, hl, hm, rfl⟩ := rangeOf_eq_ok hrange
                  simp only [isRangeMark, peekVisible, Bool.and_eq_true, decide_eq_true_eq,
                    bne_iff_ne, Bool.false_eq_true, if_false] at hmark
                  obtain ⟨⟨rfl, hclose⟩, -⟩ := hmark
                  -- The last member is a character or an escape; the opening
                  -- bracket would be the one end that the scanner takes for a
                  -- class.
                  have hlasthead : ∀ c ∈ tail.head?, c ≠ '[' ∧ c ≠ ']' := by
                    intro c hc
                    refine ⟨?_, ?_⟩
                    · rintro rfl
                      obtain ⟨more, rfl⟩ := List.head?_eq_some_iff.mp hc
                      cases hlast
                      cases hm
                      exact hi.range _ _ rfl rfl
                    · rintro rfl
                      exact hclose hc
                  obtain ⟨xs, rfl, hxs⟩ :=
                    moves_of_readClassPrimitive hfirst (found_of_toBoundary hl) hhead
                  obtain ⟨ys, rfl, hys⟩ :=
                    moves_of_readClassPrimitive hlast (found_of_toBoundary hm) hlasthead
                  refine ⟨xs ++ ('-' :: ys), ?_, fun opening depth n hready => ?_⟩
                  · rw [List.append_assoc, List.cons_append]
                  · refine (hxs opening depth n hready).append ?_
                    have hhyphen : Moves (steady (depth + 1) n) ['-'] (steady (depth + 1) n) :=
                      moves_unmarked (by decide)
                    exact hhyphen.append (hys .none depth n (.inl rfl))
          · obtain ⟨item, hitem, heq⟩ := map_eq_ok_iff.mp h
            obtain ⟨rfl, rfl⟩ := Prod.mk.inj heq
            exact moves_of_readClassPrimitive hfirst (found_of_toClassItem hitem hi) hhead

theorem moves_operator {opening : ClassOpening} {depth n : Nat} {c : Char} {cs : List Char}
    (hc : isMark c = false) (hready : Ready opening (c :: cs)) :
    Moves ⟨false, depth + 1, opening, n⟩ [c, c] (steady (depth + 1) n) := by
  have hne : ∀ d, isMark d = true → c ≠ d := by
    rintro d hd rfl
    rw [hc] at hd
    cases hd
  exact (moves_member (hne _ (by decide)) (hne _ (by decide)) (hne _ (by decide)) hready).append
    (moves_unmarked (List.forall_mem_singleton.mpr hc))

/-- Each open class is one level of the scanner, so the text up to the end of
the outermost class leads out of all of them. -/
theorem moves_of_readClassFrom {outer : List ClassFrame} {frame : ClassFrame}
    {cs rest : List Char} {negated : Bool} {set : ClassSet}
    (h : readClassFrom false outer frame cs = .ok ((negated, set), rest))
    (hset : ∀ i, set.Has i → i.Tame) :
    ∃ text, cs = text ++ rest ∧ ∀ opening n, Ready opening cs →
      Moves ⟨false, outer.length + 1, opening, n⟩ text (steady 0 n) := by
  fun_induction readClassFrom false outer frame cs with
  | case1 | case3 | case10 => cases h
  | case2 outer frame tail item behind hascii ih =>
      rw [skipTrivia_false] at ih
      rw [bounded?_eq_some_iff] at hascii
      obtain ⟨xs, htail, hxs⟩ := moves_of_readAsciiClass? hascii
      obtain ⟨ys, hbehind, hys⟩ := ih h
      refine ⟨'[' :: xs ++ ys, ?_, fun opening n _ => ?_⟩
      · rw [htail, hbehind, List.cons_append, List.cons_append, List.append_assoc]
      · exact (hxs opening outer.length n).append (hys .none n (.inl rfl))
  | case4 outer frame tail hascii inner behind hstart ih =>
      rw [skipTrivia_false] at ih
      rw [bounded_eq_ok_iff] at hstart
      obtain ⟨xs, opening', htail, hready, hxs⟩ := moves_of_readClassStart hstart
      obtain ⟨ys, hbehind, hys⟩ := ih h
      refine ⟨'[' :: xs ++ ys, ?_, fun opening n _ => ?_⟩
      · rw [htail, hbehind, List.cons_append, List.cons_append, List.append_assoc]
      · exact (moves_openClass.append (hxs (outer.length + 1) n)).append
          (hys opening' n hready)
  | case5 frame tail =>
      cases h
      refine ⟨[']'], rfl, fun opening n hready => ?_⟩
      obtain rfl : opening = .none := hready.resolve_right fun hhead => (hhead _ rfl).1 rfl
      exact moves_closeClass
  | case6 frame tail parent outer ih =>
      rw [skipTrivia_false] at ih
      obtain ⟨ys, htail, hys⟩ := ih h
      refine ⟨']' :: ys, congrArg (']' :: ·) htail, fun opening n hready => ?_⟩
      obtain rfl : opening = .none := hready.resolve_right fun hhead => (hhead _ rfl).1 rfl
      exact moves_closeClass.append (hys .none n (.inl rfl))
  | case7 outer frame tail ih | case8 outer frame tail ih | case9 outer frame tail ih =>
      rw [skipTrivia_false] at ih
      obtain ⟨ys, htail, hys⟩ := ih h
      refine ⟨_ :: _ :: ys, congrArg (_ :: _ :: ·) htail, fun opening n hready => ?_⟩
      exact (moves_operator (by decide) hready).append (hys .none n (.inl rfl))
  | case11 outer frame c tail hopen hclose hand hminus htilde item behind hitem ih =>
      rw [skipTrivia_false] at ih
      rw [bounded_eq_ok_iff] at hitem
      obtain ⟨ys, hbehind, hys⟩ := ih h
      have htame : item.Tame := by
        have hwithin := (within_of_readClassFrom h).1
        exact hset item hwithin.of_push.2
      have hhead : ∀ d ∈ (c :: tail).head?, d ≠ '[' ∧ d ≠ ']' := by
        rintro d ⟨⟩
        exact ⟨fun hd => hopen hd, fun hd => hclose hd⟩
      obtain ⟨xs, hcs, hxs⟩ := moves_of_readClassItem hitem htame hhead
      refine ⟨xs ++ ys, ?_, fun opening n hready => ?_⟩
      · rw [hcs, hbehind, List.append_assoc]
      · exact (hxs opening outer.length n hready).append (hys .none n (.inl rfl))

theorem moves_of_readClass {cs rest : List Char} {negated : Bool} {set : ClassSet}
    (h : readClass false cs = .ok ((negated, set), rest)) (hset : ∀ i, set.Has i → i.Tame) :
    ∃ text, cs = text ++ rest ∧ ∀ n, Moves (steady 0 n) ('[' :: text) (steady 0 n) := by
  rw [readClass] at h
  split at h
  · cases h
  · next frame behind hstart =>
      rw [skipTrivia_false] at h
      obtain ⟨xs, opening, rfl, hready, hxs⟩ := moves_of_readClassStart hstart
      obtain ⟨ys, rfl, hys⟩ := moves_of_readClassFrom h hset
      refine ⟨xs ++ ys, (List.append_assoc xs ys rest).symm, fun n => ?_⟩
      exact moves_openClass.append ((hxs 0 n).append (hys opening n hready))

end NodeSieve.Regex
