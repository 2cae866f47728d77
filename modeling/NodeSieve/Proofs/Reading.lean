import NodeSieve.Proofs.Grammar

/-!
# Reading follows the grammar

Each reader is tied to one relation of the grammar, in both directions: what
it takes off the front of a text is related to what it answers, and a text
that is so related is taken off, whatever stands behind it. Together they say
that the reader accepts the texts of the grammar and no others, and that a
text spells at most one tree.

Two things keep the second direction from being a plain converse. A bare type
name ends only where a character follows that it can not take, so what stands
behind it matters; and the lists are read with a bound, which has to be seen
to be large enough.
-/

namespace NodeSieve

namespace Definition

open NodeSieve.Unicode

/-! ## Words and symbols -/

theorem readQuoted?_eq_some_iff {cs content rest : List Char} :
    readQuoted? cs = some (content, rest) ↔
      QuotedContent content ∧ cs = content ++ '\'' :: rest := by
  constructor
  · intro h
    fun_induction readQuoted? cs generalizing content with
    | case1 => exact absurd h (by simp)
    | case2 tail =>
        obtain ⟨rfl, rfl⟩ := Prod.mk.inj (Option.some.inj h)
        exact ⟨.nil, rfl⟩
    | case3 c tail ih =>
        obtain ⟨⟨inner, behind⟩, hread, heq⟩ := Option.map_eq_some_iff.mp h
        obtain ⟨rfl, rfl⟩ := Prod.mk.inj heq
        obtain ⟨hinner, rfl⟩ := ih hread
        exact ⟨.escape hinner, rfl⟩
    | case4 c tail hquote hslash ih =>
        obtain ⟨⟨inner, behind⟩, hread, heq⟩ := Option.map_eq_some_iff.mp h
        obtain ⟨rfl, rfl⟩ := Prod.mk.inj heq
        obtain ⟨hinner, rfl⟩ := ih hread
        have hc : c ≠ '\\' := by
          intro h
          subst h
          cases hcs : inner ++ '\'' :: behind with
          | nil => exact List.append_ne_nil_of_right_ne_nil _ (List.cons_ne_nil _ _) hcs
          | cons d ds => exact hslash d ds rfl hcs
        exact ⟨.plain (fun hc => hquote hc) hc hinner, rfl⟩
  · intro h
    obtain ⟨hcontent, rfl⟩ := h
    induction hcontent with
    | nil => rfl
    | @plain c cs hquote hslash h ih =>
        rw [List.cons_append, readQuoted?, ih]
        · rfl
        · exact fun hc => hquote hc
        · exact fun d ds hc _ => hslash hc
    | escape h ih =>
        rw [List.cons_append, List.cons_append, readQuoted?, ih]
        rfl

theorem expectSymbol_eq_ok_iff {symbol : Char} {cs rest : List Char}
    (hsymbol : isBlank symbol = false) :
    expectSymbol symbol cs = .ok rest ↔ ∃ w, AllBlank w ∧ cs = w ++ symbol :: rest := by
  rw [expectSymbol]
  constructor
  · intro h
    obtain ⟨w, hw, hcs⟩ := exists_eq_append_dropBlanks cs
    split at h
    · cases h
    · next c tail hdrop =>
        split at h
        · next hc =>
            cases h
            exact ⟨w, hw, by rw [← hc, ← hdrop]; exact hcs⟩
        · cases h
  · intro h
    obtain ⟨w, hw, rfl⟩ := h
    rw [dropBlanks_append_cons hw hsymbol]
    exact if_pos rfl

/-- A text behind which a run of characters of a kind can not go on. -/
def Stops (p : Char → Bool) (cs : List Char) : Prop :=
  ∀ c ∈ cs.head?, p c = false

theorem Stops.cons {p : Char → Bool} {c : Char} {cs : List Char} (h : p c = false) :
    Stops p (c :: cs) := by
  intro d hd
  rw [← Option.some.inj hd]
  exact h

theorem Stops.append {p : Char → Bool} {w cs : List Char} (hw : ∀ c ∈ w, p c = false)
    (h : Stops p cs) : Stops p (w ++ cs) := by
  cases w with
  | nil => exact h
  | cons d ds => exact .cons (hw d (List.mem_cons_self ..))

theorem takeWhile_append_of_stops {p : Char → Bool} {xs rest : List Char}
    (hxs : ∀ c ∈ xs, p c = true) (hrest : Stops p rest) :
    (xs ++ rest).takeWhile p = xs := by
  rw [List.takeWhile_append_of_pos hxs]
  cases rest with
  | nil => exact List.append_nil xs
  | cons c rest =>
      rw [List.takeWhile_cons_of_neg, List.append_nil]
      rw [hrest c rfl]
      exact Bool.false_ne_true

theorem dropWhile_append_of_stops {p : Char → Bool} {xs rest : List Char}
    (hxs : ∀ c ∈ xs, p c = true) (hrest : Stops p rest) :
    (xs ++ rest).dropWhile p = rest := by
  rw [List.dropWhile_append_of_pos hxs]
  cases rest with
  | nil => rfl
  | cons c rest =>
      rw [List.dropWhile_cons_of_neg]
      rw [hrest c rfl]
      exact Bool.false_ne_true

theorem isBare_of_blank {c : Char} (h : isBlank c = true) : isBare c = false := by
  rw [isBare, h]
  rfl

theorem not_blank_of_isBare {c : Char} (h : isBare c = true) : isBlank c = false := by
  cases hc : isBlank c with
  | false => rfl
  | true => exact absurd h (by rw [isBare_of_blank hc]; exact Bool.false_ne_true)

theorem stops_isBare_of_blanks {w rest : List Char} {c : Char} (hw : AllBlank w)
    (hc : isBare c = false) : Stops isBare (w ++ c :: rest) :=
  .append (fun d hd => isBare_of_blank (hw d hd)) (.cons hc)

theorem toNat_of_isNameChar {c : Char} (h : isNameChar c = true) :
    48 ≤ c.toNat ∧ c.toNat ≤ 122 := by
  have hval : c.val.toNat = c.toNat := rfl
  have hcodes : 'A'.val.toNat = 65 ∧ 'Z'.val.toNat = 90 ∧ 'a'.val.toNat = 97 ∧
      'z'.val.toNat = 122 ∧ '0'.val.toNat = 48 ∧ '9'.val.toNat = 57 := by decide
  rw [isNameChar, Bool.or_eq_true] at h
  rcases h with h | h
  · have hranges : (decide ('A'.val ≤ c.val ∧ c.val ≤ 'Z'.val) ||
        (decide ('a'.val ≤ c.val) && decide (c.val ≤ 'z'.val)) ||
        (decide ('0'.val ≤ c.val) && decide (c.val ≤ '9'.val))) = true := h
    simp only [UInt32.le_iff_toNat_le, Bool.or_eq_true, Bool.and_eq_true,
      decide_eq_true_eq] at hranges
    omega
  · rw [eq_of_beq h]
    decide

theorem isNameChar_of_blank {c : Char} (h : isBlank c = true) : isNameChar c = false := by
  cases hc : isNameChar c with
  | false => rfl
  | true =>
      have hname := toNat_of_isNameChar hc
      have hblank := toNat_of_isBlank h
      omega

theorem not_blank_of_isNameChar {c : Char} (h : isNameChar c = true) : isBlank c = false := by
  cases hc : isBlank c with
  | false => rfl
  | true => exact absurd h (by rw [isNameChar_of_blank hc]; exact Bool.false_ne_true)

theorem readName_append {name w rest : List Char} {c : Char}
    (hname : name.all isNameChar = true) (hw : AllBlank w) (hc : isNameChar c = false) :
    readName (name ++ (w ++ c :: rest)) = (name, w ++ c :: rest) := by
  have hname := List.all_eq_true.mp hname
  have hstops : Stops isNameChar (w ++ c :: rest) :=
    .append (fun d hd => isNameChar_of_blank (hw d hd)) (.cons hc)
  rw [readName, takeWhile_append_of_stops hname hstops, dropWhile_append_of_stops hname hstops]

theorem readName_append_eq (cs : List Char) : (readName cs).1 ++ (readName cs).2 = cs :=
  List.takeWhile_append_dropWhile

/-! ## Arguments -/

theorem readSign_sound {cs rest : List Char} {sign : Sign} (h : readSign cs = (sign, rest)) :
    (∃ u, AllBlank u ∧ cs = u ++ sign.symbol :: rest) ∨
      (sign = .include ∧ rest = dropBlanks cs ∧
        ∀ c ∈ rest.head?, Sign.ofSymbol? c = none) := by
  rw [readSign] at h
  split at h
  · next hdrop =>
      obtain ⟨rfl, rfl⟩ := Prod.mk.inj h
      exact .inr ⟨rfl, hdrop.symm, by rintro c ⟨⟩⟩
  · next c tail hdrop =>
      split at h
      · next sign' hsign =>
          obtain ⟨rfl, rfl⟩ := Prod.mk.inj h
          obtain ⟨u, hu, hcs⟩ := exists_eq_append_dropBlanks cs
          refine .inl ⟨u, hu, ?_⟩
          rw [Sign.symbol_of_ofSymbol? hsign, ← hdrop]
          exact hcs
      · next hsign =>
          obtain ⟨rfl, rfl⟩ := Prod.mk.inj h
          exact .inr ⟨rfl, hdrop.symm, by rintro d ⟨⟩; exact hsign⟩

theorem readSign_written {u rest : List Char} (sign : Sign) (hu : AllBlank u) :
    readSign (u ++ sign.symbol :: rest) = (sign, rest) := by
  have hblank : isBlank sign.symbol = false := by cases sign <;> decide
  rw [readSign, dropBlanks_append_cons hu hblank]
  simp only [Sign.ofSymbol?_symbol]

theorem readSign_omitted {cs : List Char}
    (hfirst : ∀ c ∈ (dropBlanks cs).head?, Sign.ofSymbol? c = none) :
    readSign cs = (.include, dropBlanks cs) := by
  rw [readSign]
  cases hdrop : dropBlanks cs with
  | nil => rfl
  | cons c rest =>
      rw [hdrop] at hfirst
      simp only [hfirst c rfl]

theorem readGroup_eq_ok_iff {owner : String} {opening cs rest : List Char}
    {texts : List (List Char)} :
    readGroup owner opening cs = .ok (texts, rest) ↔
      ∃ content, QuotedContent content ∧ cs = content ++ '\'' :: rest ∧
        texts = (splitPatterns content).map trimBlanks ∧ [] ∉ texts := by
  rw [readGroup]
  constructor
  · intro h
    split at h
    · cases h
    · next content behind hread =>
        obtain ⟨hcontent, hcs⟩ := readQuoted?_eq_some_iff.mp hread
        simp only [] at h
        split at h
        · cases h
        · next hne =>
            obtain ⟨rfl, rfl⟩ := Prod.mk.inj (Except.ok.inj h)
            exact ⟨content, hcontent, hcs, rfl, hne⟩
  · intro h
    obtain ⟨content, hcontent, rfl, rfl, hne⟩ := h
    rw [readQuoted?_eq_some_iff.mpr ⟨hcontent, rfl⟩]
    exact if_neg hne

theorem readArgument_sound {owner : String} {allowBare first : Bool} {cs rest : List Char}
    {texts : List (List Char)}
    (h : readArgument owner allowBare first cs = .ok (texts, rest)) :
    ∃ w text, AllBlank w ∧ cs = w ++ text ++ rest ∧ Argument allowBare text texts := by
  obtain ⟨w, hw, hcs⟩ := exists_eq_append_dropBlanks cs
  rw [readArgument] at h
  split at h
  · cases h
  · next c tail hdrop =>
      rw [hdrop] at hcs
      split at h
      · next hc =>
          obtain ⟨content, hcontent, htail, rfl, hne⟩ := readGroup_eq_ok_iff.mp h
          refine ⟨w, '\'' :: content ++ ['\''], hw, ?_, .quoted hcontent hne⟩
          rw [hcs, hc, htail]
          simp only [List.append_assoc, List.cons_append, List.nil_append]
      · split at h
        · next hbare =>
            obtain ⟨rfl, rfl⟩ := Prod.mk.inj (Except.ok.inj h)
            obtain ⟨hallow, hc⟩ := Bool.and_eq_true_iff.mp hbare
            refine ⟨w, (c :: tail).takeWhile isBare, hw, ?_, .bare hallow ?_ ?_⟩
            · rw [List.append_assoc, List.takeWhile_append_dropWhile]
              exact hcs
            · rw [List.takeWhile_cons_of_pos hc]
              exact List.cons_ne_nil _ _
            · exact List.all_eq_true.mp List.all_takeWhile
        · cases h

theorem readArgument_complete {owner : String} {allowBare first : Bool}
    {w text rest : List Char} {texts : List (List Char)} (hw : AllBlank w)
    (h : Argument allowBare text texts) (hrest : Stops isBare rest) :
    readArgument owner allowBare first (w ++ text ++ rest) = .ok (texts, rest) := by
  rw [readArgument, List.append_assoc]
  cases h with
  | @quoted content hcontent hne =>
      rw [List.cons_append, List.cons_append, dropBlanks_append_cons hw (by decide)]
      simp only [if_pos]
      rw [List.append_assoc]
      exact readGroup_eq_ok_iff.mpr ⟨content, hcontent, rfl, rfl, hne⟩
  | bare hallow hne hbare =>
      cases text with
      | nil => exact absurd rfl hne
      | cons c name =>
          have hc := hbare c (List.mem_cons_self ..)
          have hquote : c ≠ '\'' := by
            intro h
            subst h
            exact absurd hc (by decide)
          rw [List.cons_append, dropBlanks_append_cons hw (not_blank_of_isBare hc)]
          simp only [if_neg hquote, hallow, hc, Bool.and_self, if_pos]
          rw [← List.cons_append, takeWhile_append_of_stops hbare hrest,
            dropWhile_append_of_stops hbare hrest]

theorem Separated.blanks_append {α : Type} {item : List Char → α → Prop}
    {w body : List Char} {as : List α} (hw : AllBlank w) (h : Separated item body as) :
    Separated item (w ++ body) as := by
  cases h with
  | @one u text v a hu h hv =>
      have := Separated.one (hw.append hu) h hv
      rwa [List.append_assoc w, List.append_assoc w] at this
  | @more u text v rest a as hu h hv hrest =>
      have := Separated.more (hw.append hu) h hv hrest
      rwa [List.append_assoc w, List.append_assoc w, List.append_assoc w] at this

/-- Leading blanks belong to no item, and behind them the first item starts. -/
theorem Separated.starts {α : Type} {item : List Char → α → Prop} {start : Char → Prop}
    {body : List Char} {as : List α} (hstart : ∀ c, start c → isBlank c = false)
    (hitem : ∀ text a, item text a → ∃ c cs, text = c :: cs ∧ start c)
    (h : Separated item body as) :
    ∃ c cs, dropBlanks body = c :: cs ∧ start c ∧ Separated item (c :: cs) as := by
  cases h with
  | @one u text v a hu h hv =>
      obtain ⟨c, cs, rfl, hc⟩ := hitem text a h
      refine ⟨c, cs ++ v, ?_, hc, .one AllBlank.nil h hv⟩
      rw [List.append_assoc, List.cons_append, dropBlanks_append_cons hu (hstart c hc)]
  | @more u text v rest a as hu h hv hrest =>
      obtain ⟨c, cs, rfl, hc⟩ := hitem text a h
      refine ⟨c, cs ++ v ++ ',' :: rest, ?_, hc, .more AllBlank.nil h hv hrest⟩
      rw [List.append_assoc, List.append_assoc, List.cons_append,
        dropBlanks_append_cons hu (hstart c hc), List.append_assoc]

theorem Argument.starts {allowBare : Bool} {text : List Char} {texts : List (List Char)}
    (h : Argument allowBare text texts) : ∃ c cs, text = c :: cs ∧ isBlank c = false := by
  cases h with
  | quoted => exact ⟨_, _, rfl, by decide⟩
  | bare hallow hne hbare =>
      cases text with
      | nil => exact absurd rfl hne
      | cons c cs => exact ⟨c, cs, rfl, not_blank_of_isBare (hbare c (List.mem_cons_self ..))⟩

/-- An item with its blanks, and the symbol that is found behind it. -/
theorem exists_of_dropBlanks_eq_cons {rest behind : List Char} {c : Char}
    (h : dropBlanks rest = c :: behind) : ∃ v, AllBlank v ∧ rest = v ++ c :: behind := by
  obtain ⟨v, hv, hrest⟩ := exists_eq_append_dropBlanks rest
  exact ⟨v, hv, h ▸ hrest⟩

theorem readArguments_sound {owner : String} {allowBare first : Bool} {bound : Nat}
    {cs rest : List Char} {texts : List (List Char)}
    (h : readArguments owner allowBare bound first cs = .ok (texts, rest)) :
    ∃ body args, cs = body ++ ')' :: rest ∧ Separated (Argument allowBare) body args ∧
      texts = args.flatten := by
  induction bound generalizing first cs texts with
  | zero => cases h
  | succ bound ih =>
      rw [readArguments] at h
      split at h
      · cases h
      · next texts₁ rest₁ hread =>
          obtain ⟨u, text, hu, rfl, harg⟩ := readArgument_sound hread
          split at h
          · next behind hdrop =>
              obtain ⟨v, hv, rfl⟩ := exists_of_dropBlanks_eq_cons hdrop
              obtain ⟨⟨more, tail⟩, hmore, heq⟩ := map_eq_ok_iff.mp h
              obtain ⟨rfl, rfl⟩ := Prod.mk.inj heq
              obtain ⟨body, args, rfl, hbody, rfl⟩ := ih hmore
              refine ⟨_, _, ?_, .more hu harg hv hbody, rfl⟩
              simp only [List.append_assoc, List.cons_append]
          · next behind hdrop =>
              obtain ⟨v, hv, rfl⟩ := exists_of_dropBlanks_eq_cons hdrop
              obtain ⟨rfl, rfl⟩ := Prod.mk.inj (Except.ok.inj h)
              refine ⟨_, _, ?_, .one hu harg hv, (List.append_nil _).symm⟩
              simp only [List.append_assoc]
          · cases h

theorem readArguments_complete {owner : String} {allowBare first : Bool} {bound : Nat}
    {body rest : List Char} {args : List (List (List Char))}
    (h : Separated (Argument allowBare) body args) (hbound : body.length < bound) :
    readArguments owner allowBare bound first (body ++ ')' :: rest) =
      .ok (args.flatten, rest) := by
  induction h generalizing bound first with
  | @one u text v a hu harg hv =>
      obtain ⟨bound, rfl⟩ : ∃ n, bound = n + 1 := ⟨bound - 1, by omega⟩
      have hread : readArgument owner allowBare first (u ++ text ++ (v ++ ')' :: rest)) =
          .ok (a, v ++ ')' :: rest) :=
        readArgument_complete hu harg (stops_isBare_of_blanks hv (by decide))
      rw [List.append_assoc, readArguments, hread]
      simp only []
      rw [dropBlanks_append_cons hv (by decide)]
      exact congrArg (fun x => Except.ok (x, rest)) (List.append_nil _).symm
  | @more u text v tail a as hu harg hv hrest ih =>
      obtain ⟨bound, rfl⟩ : ∃ n, bound = n + 1 := ⟨bound - 1, by omega⟩
      simp only [List.length_append, List.length_cons] at hbound
      have hread : readArgument owner allowBare first
          (u ++ text ++ (v ++ ',' :: (tail ++ ')' :: rest))) =
          .ok (a, v ++ ',' :: (tail ++ ')' :: rest)) :=
        readArgument_complete hu harg (stops_isBare_of_blanks hv (by decide))
      rw [List.append_assoc, List.append_assoc, List.cons_append, readArguments, hread]
      simp only []
      rw [dropBlanks_append_cons hv (by decide)]
      simp only []
      rw [ih (by omega)]
      rfl

theorem readTest_sound {owner : String} {allowBare : Bool} {cs rest : List Char} {sign : Sign}
    {texts : List (List Char)} (h : readTest owner allowBare cs = .ok ((sign, texts), rest)) :
    ∃ w text, AllBlank w ∧ cs = w ++ '(' :: text ++ ')' :: rest ∧
      Signed allowBare text sign texts := by
  rw [readTest] at h
  split at h
  · cases h
  · next behind hopen =>
      obtain ⟨w, hw, rfl⟩ := (expectSymbol_eq_ok_iff (by decide)).mp hopen
      split at h
      next sign' behind' hsign =>
        obtain ⟨⟨texts', rest'⟩, hargs, heq⟩ := map_eq_ok_iff.mp h
        obtain ⟨htest, rfl⟩ := Prod.mk.inj heq
        obtain ⟨rfl, rfl⟩ := Prod.mk.inj htest
        obtain ⟨body, args, rfl, hbody, rfl⟩ := readArguments_sound hargs
        rcases readSign_sound hsign with ⟨u, hu, rfl⟩ | ⟨rfl, hdrop, hfirst⟩
        · refine ⟨w, _, hw, ?_, .written sign' hu hbody⟩
          simp only [List.append_assoc, List.cons_append]
        · obtain ⟨v, hv, hbehind⟩ := exists_eq_append_dropBlanks behind
          rw [← hdrop] at hbehind
          refine ⟨w, v ++ body, hw, ?_, .omitted ?_ (hbody.blanks_append hv)⟩
          · rw [hbehind]
            simp only [List.append_assoc, List.cons_append]
          · rw [dropBlanks_append hv]
            cases body with
            | nil => rintro c ⟨⟩
            | cons d ds =>
                rw [dropBlanks_cons_of_not_blank (not_blank_of_dropBlanks_eq_cons hdrop.symm)]
                exact hfirst

theorem readTest_complete {owner : String} {allowBare : Bool} {w text rest : List Char}
    {sign : Sign} {texts : List (List Char)} (hw : AllBlank w)
    (h : Signed allowBare text sign texts) :
    readTest owner allowBare (w ++ '(' :: text ++ ')' :: rest) =
      .ok ((sign, texts), rest) := by
  have hopen : expectSymbol '(' (w ++ '(' :: text ++ ')' :: rest) =
      .ok (text ++ ')' :: rest) := by
    refine (expectSymbol_eq_ok_iff (by decide)).mpr ⟨w, hw, ?_⟩
    rw [List.append_assoc, List.cons_append]
  rw [readTest, hopen]
  simp only []
  cases h with
  | @written u body args sign hu hbody =>
      rw [List.append_assoc, List.cons_append, readSign_written sign hu]
      simp only []
      rw [readArguments_complete hbody (by
        simp only [List.length_append, List.length_cons]
        omega)]
      rfl
  | @omitted body args hfirst hbody =>
      have hdrop : dropBlanks (text ++ ')' :: rest) = dropBlanks text ++ ')' :: rest :=
        dropBlanks_append_cons_eq (by decide)
      have hsign : readSign (text ++ ')' :: rest) =
          (.include, dropBlanks text ++ ')' :: rest) := by
        rw [← hdrop]
        refine readSign_omitted ?_
        rw [hdrop]
        cases htext : dropBlanks text with
        | nil =>
            rintro c hc
            rw [← Option.some.inj hc]
            rfl
        | cons c cs =>
            rw [htext] at hfirst
            exact hfirst
      obtain ⟨c, cs, htext, -, hbody⟩ :=
        hbody.starts (fun _ hc => hc) (fun _ _ => Argument.starts)
      rw [hsign, htext]
      simp only []
      rw [readArguments_complete hbody (by
        simp only [List.length_append, List.length_cons]
        omega)]
      rfl

theorem readNoArguments_eq_ok_iff {cs rest : List Char} :
    readNoArguments cs = .ok ((), rest) ↔
      ∃ w v, AllBlank w ∧ AllBlank v ∧ cs = w ++ '(' :: v ++ ')' :: rest := by
  rw [readNoArguments]
  constructor
  · intro h
    split at h
    · cases h
    · next behind hopen =>
        obtain ⟨w, hw, rfl⟩ := (expectSymbol_eq_ok_iff (by decide)).mp hopen
        split at h
        · next hdrop =>
            obtain ⟨v, hv, rfl⟩ := exists_of_dropBlanks_eq_cons hdrop
            obtain ⟨-, rfl⟩ := Prod.mk.inj (Except.ok.inj h)
            exact ⟨w, v, hw, hv, by rw [List.append_assoc, List.cons_append]⟩
        · cases h
  · intro h
    obtain ⟨w, v, hw, hv, rfl⟩ := h
    have hopen : expectSymbol '(' (w ++ '(' :: v ++ ')' :: rest) = .ok (v ++ ')' :: rest) := by
      refine (expectSymbol_eq_ok_iff (by decide)).mpr ⟨w, hw, ?_⟩
      rw [List.append_assoc, List.cons_append]
    rw [hopen]
    simp only []
    rw [dropBlanks_append_cons hv (by decide)]
    rfl

/-! ## Filters -/

theorem separated_and_iff {α : Type} {item : List Char → α → Prop} {good : α → Prop}
    {body : List Char} {as : List α} :
    Separated (fun text a => item text a ∧ good a) body as ↔
      Separated item body as ∧ ∀ a ∈ as, good a := by
  constructor
  · intro h
    induction h with
    | one hu h hv => exact ⟨.one hu h.1 hv, List.forall_mem_singleton.mpr h.2⟩
    | more hu h hv _ ih => exact ⟨.more hu h.1 hv ih.1, List.forall_mem_cons.mpr ⟨h.2, ih.2⟩⟩
  · intro h
    obtain ⟨h, hgood⟩ := h
    induction h with
    | one hu h hv => exact .one hu ⟨h, hgood _ (List.mem_singleton_self _)⟩ hv
    | more hu h hv _ ih =>
        obtain ⟨ha, has⟩ := List.forall_mem_cons.mp hgood
        exact .more hu ⟨h, ha⟩ hv (ih has)

theorem maxNesting_le_iff {ds : List Definition} {n : Nat} :
    maxNesting ds ≤ n ↔ ∀ d ∈ ds, d.nesting ≤ n := by
  induction ds with
  | nil => exact ⟨nofun, fun _ => Nat.zero_le n⟩
  | cons d ds ih => rw [maxNesting, Nat.max_le, ih, List.forall_mem_cons]

theorem readSiblings_sound {child : List Char → Read Definition}
    {item : List Char → Definition → Prop}
    (hchild : ∀ {cs rest : List Char} {d : Definition}, child cs = .ok (d, rest) →
      ∃ w text, AllBlank w ∧ cs = w ++ text ++ rest ∧ item text d)
    {bound : Nat} {cs rest : List Char} {ds : List Definition}
    (h : readSiblings child bound cs = .ok (ds, rest)) :
    ∃ body, cs = body ++ '\x7d' :: rest ∧ Separated item body ds := by
  induction bound generalizing cs ds with
  | zero => cases h
  | succ bound ih =>
      rw [readSiblings] at h
      split at h
      · cases h
      · next d rest₁ hread =>
          obtain ⟨u, text, hu, rfl, hitem⟩ := hchild hread
          split at h
          · next behind hdrop =>
              obtain ⟨v, hv, rfl⟩ := exists_of_dropBlanks_eq_cons hdrop
              obtain ⟨⟨more, tail⟩, hmore, heq⟩ := map_eq_ok_iff.mp h
              obtain ⟨rfl, rfl⟩ := Prod.mk.inj heq
              obtain ⟨body, rfl, hbody⟩ := ih hmore
              refine ⟨_, ?_, .more hu hitem hv hbody⟩
              simp only [List.append_assoc, List.cons_append]
          · next behind hdrop =>
              obtain ⟨v, hv, rfl⟩ := exists_of_dropBlanks_eq_cons hdrop
              obtain ⟨rfl, rfl⟩ := Prod.mk.inj (Except.ok.inj h)
              refine ⟨_, ?_, .one hu hitem hv⟩
              simp only [List.append_assoc]
          · cases h

theorem readSiblings_complete {child : List Char → Read Definition}
    {item : List Char → Definition → Prop}
    (hchild : ∀ {w text rest : List Char} {d : Definition}, AllBlank w → item text d →
      child (w ++ text ++ rest) = .ok (d, rest))
    {bound : Nat} {body rest : List Char} {ds : List Definition}
    (h : Separated item body ds) (hbound : body.length < bound) :
    readSiblings child bound (body ++ '\x7d' :: rest) = .ok (ds, rest) := by
  induction h generalizing bound with
  | @one u text v d hu hitem hv =>
      obtain ⟨bound, rfl⟩ : ∃ n, bound = n + 1 := ⟨bound - 1, by omega⟩
      rw [List.append_assoc, readSiblings, hchild hu hitem]
      simp only []
      rw [dropBlanks_append_cons hv (by decide)]
      rfl
  | @more u text v tail d ds hu hitem hv hrest ih =>
      obtain ⟨bound, rfl⟩ : ∃ n, bound = n + 1 := ⟨bound - 1, by omega⟩
      simp only [List.length_append, List.length_cons] at hbound
      rw [List.append_assoc, List.append_assoc, List.cons_append, readSiblings,
        hchild hu hitem]
      simp only []
      rw [dropBlanks_append_cons hv (by decide)]
      simp only []
      rw [ih (by omega)]
      rfl

theorem readChildren_sound {child : List Char → Read Definition}
    {item : List Char → Definition → Prop}
    (hchild : ∀ {cs rest : List Char} {d : Definition}, child cs = .ok (d, rest) →
      ∃ w text, AllBlank w ∧ cs = w ++ text ++ rest ∧ item text d)
    {cs rest : List Char} {ds : List Definition} (h : readChildren child cs = .ok (ds, rest)) :
    ∃ w body, AllBlank w ∧ cs = w ++ '\x7b' :: body ++ '\x7d' :: rest ∧
      Separated item body ds := by
  rw [readChildren] at h
  split at h
  · cases h
  · next behind hopen =>
      obtain ⟨w, hw, rfl⟩ := (expectSymbol_eq_ok_iff (by decide)).mp hopen
      obtain ⟨v, hv, hbehind⟩ := exists_eq_append_dropBlanks behind
      split at h
      · cases h
      · obtain ⟨body, hdrop, hbody⟩ := readSiblings_sound hchild h
        refine ⟨w, v ++ body, hw, ?_, hbody.blanks_append hv⟩
        rw [hbehind, hdrop]
        simp only [List.append_assoc, List.cons_append]

theorem readChildren_eq {child : List Char → Read Definition} {w body cs rest : List Char}
    {c : Char} (hw : AllBlank w) (hbody : dropBlanks body = c :: cs) (hc : isNameChar c = true) :
    readChildren child (w ++ '\x7b' :: body ++ '\x7d' :: rest) =
      readSiblings child (dropBlanks body ++ '\x7d' :: rest).length
        (dropBlanks body ++ '\x7d' :: rest) := by
  have hopen : expectSymbol '\x7b' (w ++ '\x7b' :: body ++ '\x7d' :: rest) =
      .ok (body ++ '\x7d' :: rest) := by
    refine (expectSymbol_eq_ok_iff (by decide)).mpr ⟨w, hw, ?_⟩
    rw [List.append_assoc, List.cons_append]
  have hbrace : c ≠ '\x7d' := by
    intro h
    subst h
    exact absurd hc (by decide)
  rw [readChildren, hopen]
  simp only []
  rw [dropBlanks_append_cons_eq (by decide), hbody, List.cons_append]
  split
  · next heq => exact absurd (List.cons.inj heq).1 hbrace
  · rfl

theorem readChildren_complete {child : List Char → Read Definition}
    {item : List Char → Definition → Prop}
    (hchild : ∀ {w text rest : List Char} {d : Definition}, AllBlank w → item text d →
      child (w ++ text ++ rest) = .ok (d, rest))
    (hitem : ∀ text d, item text d → ∃ c cs, text = c :: cs ∧ isNameChar c = true)
    {w body rest : List Char} {ds : List Definition} (hw : AllBlank w)
    (h : Separated item body ds) :
    readChildren child (w ++ '\x7b' :: body ++ '\x7d' :: rest) = .ok (ds, rest) := by
  obtain ⟨c, cs, hbody, hc, h⟩ := h.starts (fun _ => not_blank_of_isNameChar) hitem
  rw [readChildren_eq hw hbody hc, hbody]
  refine readSiblings_complete hchild h ?_
  simp only [List.length_append, List.length_cons]
  omega

/-! ## Tests by name -/

theorem eq_toList_of_ofList {name : List Char} {s : String} (h : String.ofList name = s) :
    name = s.toList := by
  rw [← h, String.toList_ofList]

theorem readTestNamed_sound {name start cs rest : List Char} {d : Definition}
    (h : readTestNamed name start cs = .ok (d, rest)) :
    ∃ text, cs = text ++ rest ∧ Spells (name ++ text) d ∧ d.nesting = 0 := by
  rw [readTestNamed] at h
  split at h
  · cases h
  · next hname =>
      rw [eq_toList_of_ofList hname]
      obtain ⟨⟨⟨sign, literals⟩, rest'⟩, htest, heq⟩ := map_eq_ok_iff.mp h
      obtain ⟨rfl, rfl⟩ := Prod.mk.inj heq
      obtain ⟨w, text, hw, rfl, htext⟩ := readTest_sound htest
      refine ⟨w ++ '(' :: text ++ [')'], ?_, ?_, rfl⟩
      · simp only [List.append_assoc, List.cons_append, List.nil_append]
      · have := Spells.type hw htext
        rwa [List.append_assoc, List.append_assoc, ← List.append_assoc w] at this
  · next hname =>
      rw [eq_toList_of_ofList hname]
      obtain ⟨⟨⟨⟩, rest'⟩, hnone, heq⟩ := map_eq_ok_iff.mp h
      obtain ⟨rfl, rfl⟩ := Prod.mk.inj heq
      obtain ⟨w, v, hw, hv, rfl⟩ := readNoArguments_eq_ok_iff.mp hnone
      refine ⟨w ++ '(' :: v ++ [')'], ?_, ?_, rfl⟩
      · simp only [List.append_assoc, List.cons_append, List.nil_append]
      · have := Spells.folder hw hv
        rwa [List.append_assoc, List.append_assoc, ← List.append_assoc w] at this
  · next label hempty htype hfolder =>
      split at h
      · next f hf =>
          rw [eq_toList_of_ofList (Field.label_of_ofLabel? hf).symm]
          obtain ⟨⟨⟨sign, patterns⟩, rest'⟩, htest, heq⟩ := map_eq_ok_iff.mp h
          obtain ⟨rfl, rfl⟩ := Prod.mk.inj heq
          obtain ⟨w, text, hw, rfl, htext⟩ := readTest_sound htest
          refine ⟨w ++ '(' :: text ++ [')'], ?_, ?_, rfl⟩
          · simp only [List.append_assoc, List.cons_append, List.nil_append]
          · have := Spells.field f hw htext
            rwa [List.append_assoc, List.append_assoc, ← List.append_assoc w] at this
      · cases h

theorem label_all_isNameChar (f : Field) : f.label.toList.all isNameChar = true := by
  cases f <;> decide

/-- No level is left for the combinator that a text starts with. -/
def tooDeep (limit : Nat) (rest : List Char) : Mismatch :=
  ⟨rest, .nesting limit, .deeperNesting⟩

section

variable {limit levels : Nat} {cs rest word : List Char} {combine : List Definition → Definition}

theorem readFilter_combinator_zero (hword : Combines word combine)
    (hname : readName (dropBlanks cs) = (word, rest)) :
    readFilter limit 0 cs = .error (tooDeep limit (dropBlanks cs)) := by
  rw [readFilter.eq_def]
  cases hword with
  | all => simp only [hname, tooDeep]
  | any => simp only [hname, tooDeep]

theorem readFilter_combinator_succ (hword : Combines word combine)
    (hname : readName (dropBlanks cs) = (word, rest)) :
    readFilter limit (levels + 1) cs =
      (readChildren (readFilter limit levels) rest).map fun (ds, rest) => (combine ds, rest) := by
  rw [readFilter.eq_def]
  cases hword with
  | all => simp only [hname]
  | any => simp only [hname]

theorem readFilter_test {name : List Char} (hname : readName (dropBlanks cs) = (name, rest))
    (hword : ∀ combine, ¬ Combines name combine) :
    readFilter limit levels cs = readTestNamed name (dropBlanks cs) rest := by
  have hand : name ≠ ['a', 'n', 'd'] := fun h => hword .all (h ▸ .all)
  have hor : name ≠ ['o', 'r'] := fun h => hword .any (h ▸ .any)
  rw [readFilter.eq_def]
  simp only [hname]

/-- A filter starts with the word of a combinator, or it is read as a test
whatever the levels are. -/
theorem readFilter_combinator_or_test (cs : List Char) :
    (∃ word combine rest, Combines word combine ∧ readName (dropBlanks cs) = (word, rest)) ∨
      ∃ name rest, dropBlanks cs = name ++ rest ∧ ∀ limit levels,
        readFilter limit levels cs = readTestNamed name (dropBlanks cs) rest := by
  obtain ⟨name, rest, hname⟩ : ∃ name rest, readName (dropBlanks cs) = (name, rest) :=
    ⟨_, _, rfl⟩
  by_cases hword : ∃ combine, Combines name combine
  · obtain ⟨combine, hword⟩ := hword
    exact .inl ⟨name, combine, rest, hword, hname⟩
  · have hstart := readName_append_eq (dropBlanks cs)
    rw [hname] at hstart
    refine .inr ⟨name, rest, hstart.symm, fun limit levels => readFilter_test hname ?_⟩
    exact fun combine h => hword ⟨combine, h⟩

theorem readFilter_dropBlanks (limit levels : Nat) (cs : List Char) :
    readFilter limit levels (dropBlanks cs) = readFilter limit levels cs := by
  rw [readFilter.eq_def, readFilter.eq_def]
  simp only [dropBlanks_dropBlanks]

theorem readFilter_field {f : Field}
    (hname : readName (dropBlanks cs) = (f.label.toList, rest)) :
    readFilter limit levels cs =
      (readTest f.label false rest).map fun (test, rest) => (.field f test.1 test.2, rest) := by
  have hword : ∀ combine, ¬ Combines f.label.toList combine := by
    cases f <;> exact nofun
  rw [readFilter_test hname hword]
  cases f <;> rfl

theorem readFilter_type (hname : readName (dropBlanks cs) = (['T', 'y', 'p', 'e'], rest)) :
    readFilter limit levels cs =
      (readTest "Type" true rest).map fun (test, rest) => (.type test.1 test.2, rest) := by
  rw [readFilter_test hname nofun]
  rfl

theorem readFilter_folder
    (hname : readName (dropBlanks cs) = (['F', 'o', 'l', 'd', 'e', 'r'], rest)) :
    readFilter limit levels cs = (readNoArguments rest).map fun (_, rest) => (.folder, rest) := by
  rw [readFilter_test hname nofun]
  rfl

/-- A combinator is read only where a level is left for it, and its children
are read with one level less. -/
theorem readFilter_combinator_eq_ok_iff {rest' : List Char} {d : Definition}
    (hword : Combines word combine) (hname : readName (dropBlanks cs) = (word, rest)) :
    readFilter limit levels cs = .ok (d, rest') ↔
      ∃ inner ds, levels = inner + 1 ∧
        readChildren (readFilter limit inner) rest = .ok (ds, rest') ∧ d = combine ds := by
  constructor
  · intro h
    cases levels with
    | zero =>
        rw [readFilter_combinator_zero hword hname] at h
        cases h
    | succ inner =>
        rw [readFilter_combinator_succ hword hname] at h
        obtain ⟨⟨ds, rest''⟩, hchildren, heq⟩ := map_eq_ok_iff.mp h
        obtain ⟨rfl, rfl⟩ := Prod.mk.inj heq
        exact ⟨inner, ds, rfl, hchildren, rfl⟩
  · intro h
    obtain ⟨inner, ds, rfl, hchildren, rfl⟩ := h
    rw [readFilter_combinator_succ hword hname]
    exact map_eq_ok_iff.mpr ⟨(ds, rest'), hchildren, rfl⟩

end

/-- A tree within a number of levels, and a text that spells it. -/
def SpellsWithin (levels : Nat) (text : List Char) (d : Definition) : Prop :=
  Spells text d ∧ d.nesting ≤ levels

theorem separated_spellsWithin_iff {levels : Nat} {body : List Char} {ds : List Definition} :
    Separated (SpellsWithin levels) body ds ↔
      Separated Spells body ds ∧ maxNesting ds ≤ levels := by
  rw [maxNesting_le_iff]
  exact separated_and_iff

theorem readFilter_sound {limit levels : Nat} {cs rest : List Char} {d : Definition}
    (h : readFilter limit levels cs = .ok (d, rest)) :
    ∃ w text, AllBlank w ∧ cs = w ++ text ++ rest ∧ SpellsWithin levels text d := by
  induction levels using Nat.strongRecOn generalizing cs rest d with
  | ind levels ih =>
      obtain ⟨w, hw, hcs⟩ := exists_eq_append_dropBlanks cs
      rcases readFilter_combinator_or_test cs with
        ⟨word, combine, tail, hword, hname⟩ | ⟨name, tail, hstart, htest⟩
      · obtain ⟨inner, ds, rfl, hchildren, rfl⟩ :=
          (readFilter_combinator_eq_ok_iff hword hname).mp h
        obtain ⟨v, body, hv, rfl, hbody⟩ :=
          readChildren_sound (ih inner (Nat.lt_succ_self inner)) hchildren
        obtain ⟨hspells, hnesting⟩ := separated_spellsWithin_iff.mp hbody
        have hstart := readName_append_eq (dropBlanks cs)
        rw [hname] at hstart
        refine ⟨w, _, hw, ?_, hword.spells hv hspells, ?_⟩
        · rw [hcs, ← hstart]
          simp only [List.append_assoc, List.cons_append, List.nil_append]
        · rw [hword.nesting_eq]
          exact Nat.succ_le_succ hnesting
      · rw [htest] at h
        obtain ⟨text, rfl, hspells, hnesting⟩ := readTestNamed_sound h
        refine ⟨w, name ++ text, hw, ?_, hspells, hnesting ▸ Nat.zero_le _⟩
        rw [hcs, hstart]
        simp only [List.append_assoc]

theorem Spells.starts {text : List Char} {d : Definition} (h : Spells text d) :
    ∃ c cs, text = c :: cs ∧ isNameChar c = true := by
  cases h with
  | all | any | type | folder => exact ⟨_, _, rfl, by decide⟩
  | field f hw h => cases f <;> exact ⟨_, _, rfl, by decide⟩

/-- A name that stands in front of an opening symbol, with blanks between. -/
theorem readName_word {name v body rest : List Char} {opening closing : Char}
    (hname : name.all isNameChar = true) (hv : AllBlank v)
    (hopening : isNameChar opening = false) :
    readName (name ++ v ++ opening :: body ++ [closing] ++ rest) =
      (name, v ++ opening :: body ++ closing :: rest) := by
  simp only [List.append_assoc, List.cons_append, List.nil_append]
  exact readName_append hname hv hopening

theorem readFilter_complete {limit levels : Nat} {w text rest : List Char} {d : Definition}
    (hw : AllBlank w) (h : SpellsWithin levels text d) :
    readFilter limit levels (w ++ text ++ rest) = .ok (d, rest) := by
  induction levels using Nat.strongRecOn generalizing w text rest d with
  | ind levels ih =>
      obtain ⟨hspells, hnesting⟩ := h
      obtain ⟨c, cs, htext, hc⟩ := hspells.starts
      -- Behind the blanks stands the word that the text starts with.
      have hword : ∀ {name tail : List Char}, readName (text ++ rest) = (name, tail) →
          readName (dropBlanks (w ++ text ++ rest)) = (name, tail) := by
        intro name tail h
        rw [htext, List.append_assoc, List.cons_append,
          dropBlanks_append_cons hw (not_blank_of_isNameChar hc), ← List.cons_append, ← htext]
        exact h
      have hcombined : ∀ {word v body : List Char} {combine : List Definition → Definition}
          {ds : List Definition}, Combines word combine → (combine ds).nesting ≤ levels →
          AllBlank v → Separated Spells body ds →
          text = word ++ v ++ '\x7b' :: body ++ ['\x7d'] →
          readFilter limit levels (w ++ text ++ rest) = .ok (combine ds, rest) := by
        intro word v body combine ds hcombines hnesting hv hbody heq
        rw [hcombines.nesting_eq] at hnesting
        obtain ⟨inner, rfl⟩ : ∃ n, levels = n + 1 := ⟨levels - 1, by omega⟩
        have hds := separated_spellsWithin_iff.mpr ⟨hbody, Nat.le_of_succ_le_succ hnesting⟩
        have hname := hword (heq ▸ readName_word hcombines.all_isNameChar hv (by decide))
        refine (readFilter_combinator_eq_ok_iff hcombines hname).mpr ⟨inner, ds, rfl, ?_, rfl⟩
        exact readChildren_complete (ih inner (Nat.lt_succ_self inner))
          (fun _ _ h => h.1.starts) hv hds
      cases hspells with
      | all hv hbody => exact hcombined .all hnesting hv hbody rfl
      | any hv hbody => exact hcombined .any hnesting hv hbody rfl
      | @field v body sign patterns f hv htest =>
          have hname := hword (readName_word (label_all_isNameChar f) hv (by decide))
          rw [readFilter_field hname, readTest_complete hv htest]
          rfl
      | @type v body sign literals hv htest =>
          have hname := hword (readName_word (by decide) hv (by decide))
          rw [readFilter_type hname, readTest_complete hv htest]
          rfl
      | @folder v u hv hu =>
          have hname := hword (readName_word (by decide) hv (by decide))
          rw [readFilter_folder hname, readNoArguments_eq_ok_iff.mpr ⟨v, u, hv, hu, rfl⟩]
          rfl

/-! ## Whole texts -/

theorem read_eq_none_iff {limit : Nat} {source : List Char} :
    read limit source = .ok none ↔ AllBlank source := by
  rw [← dropBlanks_eq_nil_iff, read]
  constructor
  · intro h
    split at h
    · assumption
    · split at h
      · cases h
      · split at h
        · cases h
        · cases h
  · intro h
    rw [h]

theorem read_eq_some_iff {limit : Nat} {source : List Char} {d : Definition} :
    read limit source = .ok (some d) ↔ SpelledBy d source ∧ d.nesting ≤ limit := by
  constructor
  · intro h
    rw [read] at h
    obtain ⟨u, hu, hsource⟩ := exists_eq_append_dropBlanks source
    split at h
    · cases h
    · split at h
      · cases h
      · next d' rest hread =>
          obtain ⟨w, text, hw, hstart, hspells, hnesting⟩ := readFilter_sound hread
          split at h
          · next hrest =>
              cases h
              refine ⟨?_, hnesting⟩
              rw [hsource, hstart, List.append_assoc, ← List.append_assoc, ← List.append_assoc]
              exact .intro (hu.append hw) hspells (dropBlanks_eq_nil_iff.mp hrest)
          · cases h
  · intro h
    obtain ⟨h, hnesting⟩ := h
    cases h with
    | @intro u text v hu hspells hv =>
        obtain ⟨c, cs, htext, hc⟩ := hspells.starts
        have hfilter : readFilter limit limit (text ++ v) = .ok (d, v) :=
          readFilter_complete AllBlank.nil ⟨hspells, hnesting⟩
        have hdrop : dropBlanks (u ++ text ++ v) = text ++ v := by
          rw [htext, List.append_assoc, List.cons_append,
            dropBlanks_append_cons hu (not_blank_of_isNameChar hc)]
        rw [read, hdrop]
        split
        · next heq =>
            rw [htext] at heq
            exact absurd heq (List.cons_ne_nil _ _)
        · rw [hfilter]
          simp only []
          rw [dropBlanks_eq_nil_iff.mpr hv]

theorem SpelledBy.unique {source : List Char} {d d' : Definition} (h : SpelledBy d source)
    (h' : SpelledBy d' source) : d = d' := by
  have hread : read (max d.nesting d'.nesting) source = .ok (some d) :=
    read_eq_some_iff.mpr ⟨h, Nat.le_max_left ..⟩
  rw [read_eq_some_iff.mpr ⟨h', Nat.le_max_right ..⟩] at hread
  exact (Option.some.inj (Except.ok.inj hread)).symm

/-- A whole text is read as one filter, with blanks at most behind it. -/
theorem readFilter_of_read {limit : Nat} {source : List Char} {d : Definition}
    (h : read limit source = .ok (some d)) :
    ∃ rest, readFilter limit limit source = .ok (d, rest) := by
  obtain ⟨hspelled, hnesting⟩ := read_eq_some_iff.mp h
  cases hspelled with
  | @intro u text v hu hspells hv => exact ⟨v, readFilter_complete hu ⟨hspells, hnesting⟩⟩

theorem read_of_readFilter {limit : Nat} {source rest : List Char} {d : Definition}
    (h : readFilter limit limit source = .ok (d, rest)) (hrest : AllBlank rest) :
    read limit source = .ok (some d) := by
  obtain ⟨w, text, hw, rfl, hspells, hnesting⟩ := readFilter_sound h
  exact read_eq_some_iff.mpr ⟨.intro hw hspells hrest, hnesting⟩

/-- The reader answers for every text. A blank one spells no definition, a text
of the grammar whose combinators stay within the limit gives its tree, and all
others are refused as badly written. -/
theorem read_accepts_grammar (limit : Nat) (source : List Char) :
    (read limit source = .ok none ↔ AllBlank source) ∧
      (∀ d, read limit source = .ok (some d) ↔ SpelledBy d source ∧ d.nesting ≤ limit) ∧
      ((∃ m, read limit source = .error m ∧ (m.toError source).isParse = true) ↔
        ¬ AllBlank source ∧ ∀ d, SpelledBy d source → limit < d.nesting) := by
  refine ⟨read_eq_none_iff, fun d => read_eq_some_iff, ?_⟩
  constructor
  · intro h
    obtain ⟨m, hread, -⟩ := h
    refine ⟨fun hblank => ?_, fun d hd => Nat.lt_of_not_le fun hnesting => ?_⟩
    · rw [read_eq_none_iff.mpr hblank] at hread
      cases hread
    · rw [read_eq_some_iff.mpr ⟨hd, hnesting⟩] at hread
      cases hread
  · intro h
    obtain ⟨hblank, hdeep⟩ := h
    cases hread : read limit source with
    | error m => exact ⟨m, rfl, rfl⟩
    | ok answer =>
        cases answer with
        | none => exact absurd (read_eq_none_iff.mp hread) hblank
        | some d =>
            obtain ⟨hd, hnesting⟩ := read_eq_some_iff.mp hread
            exact absurd (hdeep d hd) (Nat.not_lt.mpr hnesting)

end Definition

end NodeSieve
