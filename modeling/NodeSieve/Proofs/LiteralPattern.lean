import NodeSieve.Filter.Pattern
import NodeSieve.Proofs.Search

/-!
# The pattern for one text

A type is looked for by its name, and the pattern for it is made of the name:
anchors at both ends, and between them the name's characters with a backslash
wherever one means something to the regex reader or to a group.

That this matches the name and nothing else takes three steps. Whatever the
text, it is read as the characters it was made of, so nothing in it can be
badly written (`read_literalSource`). The flags that patterns start with make
an anchor of each end and a set of each character (`resolve_literalAst`), so
only the size of the program is left to refuse. And what is anchored at both
ends spans the whole subject, character by character.
-/

namespace NodeSieve.Regex

open NodeSieve.Unicode

/-! ## Reading escaped characters -/

section

variable {c : Char} {rest : List Char}

/-- A backslash makes a literal of each character that means something. -/
theorem readEscape_of_isMeta (h : isMeta c = true) :
    readEscape false (c :: rest) = .ok (.literal (.verbatim c), rest) := by
  have h := of_decide_eq_true h
  repeat
    rcases List.mem_cons.mp h with rfl | h
    · rfl
  cases h

theorem readRepetition?_of_not_isMeta (h : isMeta c = false) :
    readRepetition? false c rest = none := by
  have hbounds : simpleBounds? c = none := by
    rw [simpleBounds?.eq_def]
    split
    all_goals first
      | rfl
      | exact absurd h (by decide)
  have hbrace : c ≠ '\x7b' := by
    rintro rfl
    exact absurd h (by decide)
  rw [readRepetition?, hbounds]
  exact if_neg hbrace

theorem readPlain_of_not_isMeta (h : isMeta c = false) :
    readPlain false c rest = .ok (.part (.literal (.verbatim c)), rest) := by
  rw [readPlain.eq_def]
  split
  all_goals first
    | rfl
    | exact absurd h (by decide)

/-- A character of a text is read as itself. -/
theorem readToken_escapeChar (canRepeat : Bool) (c : Char) (rest : List Char) :
    ∃ d tail, Pattern.escapeChar c ++ rest = d :: tail ∧
      readToken false canRepeat d tail = .ok (.part (.literal (.verbatim c)), rest) := by
  rw [Pattern.escapeChar]
  split
  · next h =>
      have hescape : readEscape false (c :: rest) = .ok (.literal (.verbatim c), rest) := by
        rw [Bool.or_eq_true, Bool.or_eq_true, beq_iff_eq, beq_iff_eq] at h
        rcases h with (hmeta | rfl) | rfl
        · exact readEscape_of_isMeta hmeta
        · rfl
        · rfl
      refine ⟨'\\', c :: rest, rfl, ?_⟩
      show (readEscape false (c :: rest)).map _ = _
      rw [hescape]
      rfl
  · next h =>
      rw [Bool.or_eq_true, Bool.or_eq_true, not_or, not_or, Bool.not_eq_true] at h
      refine ⟨c, rest, rfl, ?_⟩
      rw [readToken, readRepetition?_of_not_isMeta h.1.1]
      exact readPlain_of_not_isMeta h.1.1

end

/-- A part of a pattern joins those in front of it. -/
theorem readFrom_part {state : ReadState} {c : Char} {rest tail : List Char} (part : Ast)
    (hverbose : state.frame.verbose = false)
    (hread : readToken false state.frame.canRepeat c rest = .ok (.part part, tail)) :
    readFrom state (c :: rest) = readFrom { state with frame := state.frame.push part } tail := by
  rw [← hverbose] at hread
  rw [readFrom_cons hread]
  simp only [ReadState.add, Frame.push, hverbose, skipTrivia_false]

/-- The parts that the characters of a text are read as. -/
def literals (text : List Char) : List Ast :=
  text.map fun c => .literal (.verbatim c)

theorem readFrom_escaped {state : ReadState} (hverbose : state.frame.verbose = false)
    (text rest : List Char) :
    readFrom state (text.flatMap Pattern.escapeChar ++ rest) =
      readFrom { state with frame :=
        { state.frame with parts := (literals text).reverse ++ state.frame.parts } } rest := by
  induction text generalizing state with
  | nil => rfl
  | cons c text ih =>
      obtain ⟨d, tail, hescaped, hread⟩ := readToken_escapeChar state.frame.canRepeat c
        (text.flatMap Pattern.escapeChar ++ rest)
      have hbehind := @ih { state with frame := state.frame.push (.literal (.verbatim c)) } hverbose
      rw [List.flatMap_cons, List.append_assoc, hescaped, readFrom_part _ hverbose hread, hbehind,
        literals, literals, List.map_cons, List.reverse_cons, List.append_assoc]
      rfl

/-- The tree of the pattern for a text. -/
def literalAst (text : List Char) : Ast :=
  .concat (.assertion .lineStart :: (literals text ++ [.assertion .lineEnd]))

theorem nestingAll_literals (text : List Char) :
    Ast.nestingAll (literals text ++ [.assertion .lineEnd]) = 0 := by
  induction text with
  | nil => rfl
  | cons c text ih => exact (Nat.zero_max _).trans ih

theorem read_literalSource (text : List Char) :
    Ast.read (Pattern.literalSource text) = .ok (literalAst text) := by
  have hparts : (Ast.assertion .lineEnd :: ((literals text).reverse ++
      [.assertion .lineStart])).reverse =
      .assertion .lineStart :: (literals text ++ [.assertion .lineEnd]) := by
    rw [List.reverse_cons, List.reverse_append, List.reverse_reverse]
    rfl
  have hwhole : Ast.ofParts (.assertion .lineStart :: (literals text ++ [.assertion .lineEnd])) =
      literalAst text := by
    rw [literalAst]
    cases literals text <;> rfl
  have hfrom : readFrom .start (Pattern.literalSource text) = .ok (literalAst text) := by
    rw [Pattern.literalSource, List.cons_append,
      readFrom_part (.assertion .lineStart) rfl rfl, readFrom_escaped rfl,
      readFrom_part (.assertion .lineEnd) rfl rfl, readFrom]
    show Except.ok (Ast.ofParts (List.reverse _)) = _
    rw [ReadState.start, Frame.start, Frame.push, Frame.push, hparts, hwhole]
  have hnesting : (literalAst text).nesting ≤ maxNesting := by
    rw [literalAst, Ast.nesting, Ast.nestingAll, nestingAll_literals]
    decide
  rw [Ast.read, hfrom]
  exact if_pos hnesting

/-! ## What it means -/

/-- The characters that a character of a name stands for. -/
def literalSet (ignoreCase : Bool) (c : Char) : CharSet :=
  if ignoreCase then (caseOrbit? c).getD (.singleton c) else .singleton c

/-- The expression of the pattern for a text. -/
def literalExpr (ignoreCase : Bool) (text : List Char) : Expr :=
  .concat (.look .textStart ::
    ((text.map fun c => .oneOf (literalSet ignoreCase c)) ++ [.look .textEnd]))

theorem resolveAll_literals (ignoreCase : Bool) (text : List Char) :
    Ast.resolveAll (.start ignoreCase) (literals text ++ [.assertion .lineEnd]) =
      .ok ((text.map fun c => .oneOf (literalSet ignoreCase c)) ++ [.look .textEnd],
        .start ignoreCase) := by
  induction text with
  | nil => rfl
  | cons c text ih =>
      have hliteral : (Ast.literal (.verbatim c)).resolve (.start ignoreCase) =
          .ok (.oneOf (literalSet ignoreCase c), .start ignoreCase) := by
        cases ignoreCase <;> rfl
      have hcons : literals (c :: text) ++ [.assertion .lineEnd] =
          .literal (.verbatim c) :: (literals text ++ [.assertion .lineEnd]) := rfl
      rw [hcons, Ast.resolveAll, hliteral]
      simp only [ih]
      rfl

theorem resolve_literalAst (ignoreCase : Bool) (text : List Char) :
    (literalAst text).resolve (.start ignoreCase) =
      .ok (literalExpr ignoreCase text, .start ignoreCase) := by
  have hstart : (Ast.assertion .lineStart).resolve (.start ignoreCase) =
      .ok (.look .textStart, .start ignoreCase) := rfl
  rw [literalAst, Ast.resolve, Ast.resolveAll, hstart]
  simp only [resolveAll_literals]
  rfl

/-- Nothing but its size can be wrong with the pattern for a text. -/
theorem compile_literalSource (ignoreCase : Bool) (sizeLimit : Nat) (text : List Char) :
    compile ignoreCase sizeLimit (Pattern.literalSource text) =
      if (literalExpr ignoreCase text).plan.fits sizeLimit then
        .ok (literalExpr ignoreCase text).term
      else .error (.programTooLarge sizeLimit) := by
  rw [compile, read_literalSource]
  simp only [resolve_literalAst]

theorem terms_literals (ignoreCase : Bool) (text : List Char) :
    Expr.terms ((text.map fun c => .oneOf (literalSet ignoreCase c)) ++ [.look .textEnd]) =
      (text.map (literalSet ignoreCase)).map .oneOf ++ [.look .textEnd] := by
  induction text with
  | nil => rfl
  | cons c text ih => exact congrArg (_ :: ·) ih

/-- The pattern for a text matches the texts that are as long and agree with it
character by character. -/
theorem isMatch_literal_iff {ignoreCase : Bool} {text subject : List Char} :
    (literalExpr ignoreCase text).term.isMatch subject = true ↔
      List.Forall₂ (fun c d => (literalSet ignoreCase c).contains d = true) text subject := by
  have hterm : (literalExpr ignoreCase text).term = .catAll (.look .textStart ::
      ((text.map (literalSet ignoreCase)).map .oneOf ++ [.look .textEnd])) := by
    rw [← terms_literals]
    rfl
  have hordered : (literalExpr ignoreCase text).term.ordered = true := by
    rw [hterm]
    refine Term.ordered_catAll fun r hr => ?_
    rcases List.mem_cons.mp hr with rfl | hr
    · rfl
    · rcases List.mem_append.mp hr with hset | hend
      · obtain ⟨set, -, rfl⟩ := List.mem_map.mp hset
        rfl
      · rw [List.mem_singleton.mp hend]
        rfl
  rw [Term.isMatch_iff hordered, hterm, Term.matches_anchored_iff, Term.spans_sets_iff,
    List.forall₂_map_left_iff]

end NodeSieve.Regex

namespace NodeSieve

open NodeSieve.Regex NodeSieve.Unicode

/-- The pattern for a text is a pattern whatever the text, unless its program
is too large, and where case counts it matches the text and nothing else. -/
theorem Pattern.literal_matches_only (options : PatternOptions) (text : String) :
    (literalExpr options.caseInsensitive text.toList).plan.fits options.sizeLimit.toNat = true ∧
        (∃ p, Pattern.literal options text.toList = .ok p ∧
          (options.caseInsensitive = false →
            ∀ subject : String, p.isMatch subject = true ↔ subject = text)) ∨
      (literalExpr options.caseInsensitive text.toList).plan.fits options.sizeLimit.toNat = false ∧
        Pattern.literal options text.toList =
          .error (.programTooLarge options.sizeLimit.toNat) := by
  rw [Pattern.literal, Pattern.ofChars, compile_literalSource]
  cases hfits : (literalExpr options.caseInsensitive text.toList).plan.fits
      options.sizeLimit.toNat with
  | true =>
      refine .inl ⟨rfl, _, rfl, fun hcase subject => ?_⟩
      have hsets : ∀ c, literalSet options.caseInsensitive c = .singleton c := by
        intro c
        rw [hcase]
        rfl
      rw [isMatch, isMatch_literal_iff]
      simp only [hsets, CharSet.forall₂_singleton_iff, String.toList_inj]
  | false => exact .inr ⟨rfl, rfl⟩

/-- Quotes, commas, line feeds and backslashes are no exceptions. -/
theorem Pattern.literal_matches_only_of_marks :
    ∃ p, Pattern.literal .default "\\',\n[é".toList = .ok p ∧
      ∀ subject : String, p.isMatch subject = true ↔ subject = "\\',\n[é" := by
  have hfits : (literalExpr PatternOptions.default.caseInsensitive "\\',\n[é".toList).plan.fits
      PatternOptions.default.sizeLimit.toNat = true := by
    decide +kernel
  rcases literal_matches_only .default "\\',\n[é" with ⟨-, p, hp, hmatch⟩ | ⟨hlarge, -⟩
  · exact ⟨p, hp, hmatch rfl⟩
  · rw [hfits] at hlarge
    cases hlarge

end NodeSieve
