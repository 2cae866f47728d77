import NodeSieve.Regex.Ast
import NodeSieve.Regex.Error
import NodeSieve.Regex.Trivia
import NodeSieve.Text.Numeral

/-!
# Escapes

What a backslash makes of the characters behind it: a character taken
literally, a character given by its code point, a class, a condition on the
place. The readers here get the text behind the backslash and give back what is
left of it, which is never more than they got.
-/

namespace NodeSieve.Regex

open NodeSieve.Unicode NodeSieve.Text

/-- The smallest parts of a pattern. -/
inductive Primitive where
  | literal (l : Literal)
  | dot
  | assertion (a : Assertion)
  | property (negated : Bool) (query : PropertyQuery)
  | letter (negated : Bool) (kind : LetterClass)

def Primitive.toAst : Primitive → Ast
  | .literal l => .literal l
  | .dot => .dot
  | .assertion a => .assertion a
  | .property negated query => .property negated query
  | .letter negated kind => .letter negated kind

/-- A condition on the place can not stand in a class. -/
def Primitive.toClassItem : Primitive → Except Error ClassItem
  | .literal l => .ok (.literal l)
  | .property negated query => .ok (.property negated query)
  | .letter negated kind => .ok (.letter negated kind)
  | .dot | .assertion _ => .error .classEscapeInvalid

/-- Only a character can bound a range. -/
def Primitive.toBoundary : Primitive → Except Error Literal
  | .literal l => .ok l
  | _ => .error .classRangeBoundary

/-- The characters that mean something unescaped somewhere in a pattern. -/
def isMeta (c : Char) : Bool :=
  c ∈ ['\\', '.', '+', '*', '?', '(', ')', '|', '[', ']', '\x7b', '\x7d', '^', '$', '#', '&', '-',
    '~']

/-- The characters that a backslash leaves as they are: ASCII characters other
than letters, digits and the two angle brackets. -/
def isEscapable (c : Char) : Bool :=
  isMeta c || (c.toNat ≤ 0x7F && !c.isAlphanum && c != '<' && c != '>')

/-- A number of exactly `count` hexadecimal digits. -/
def readHexDigits (verbose : Bool) : Nat → Nat → List Char → Except Error (Nat × List Char)
  | 0, point, cs => .ok (point, cs)
  | _ + 1, _, [] => .error .escapeUnfinished
  | count + 1, point, c :: cs =>
    match digitValue? 16 c with
    | none => .error .hexInvalidDigit
    | some d => readHexDigits verbose count (point * 16 + d) (skipTrivia verbose cs)

/-- Hexadecimal digits up to a closing brace; there is none so far if `point?`
is `none`. -/
def readHexBraced (verbose : Bool) (point? : Option Nat) (cs : List Char) :
    Except Error (Nat × List Char) :=
  match cs with
  | [] => .error .escapeUnfinished
  | c :: rest =>
    if c = '\x7d' then
      match point? with
      | none => .error .hexEmpty
      | some point => .ok (point, skipTrivia verbose rest)
    else
      match digitValue? 16 c with
      | none => .error .hexInvalidDigit
      | some d => readHexBraced verbose (some (point?.getD 0 * 16 + d)) (skipTrivia verbose rest)
termination_by cs.length
decreasing_by
  have := skipTrivia_length_le verbose rest
  simp only [List.length_cons]
  omega

/-- The literal with a code point. -/
def literalOfPoint (isByte : Bool) : Nat × List Char → Except Error (Primitive × List Char)
  | (point, rest) =>
    match charOfPoint? point with
    | some c => .ok (.literal ⟨c, isByte⟩, rest)
    | none => .error .hexInvalid

/-- A character by its code point: in braces, or with exactly `count` digits.
Two digits name a byte. -/
def readHex (verbose : Bool) (count : Nat) (cs : List Char) :
    Except Error (Primitive × List Char) :=
  match skipTrivia verbose cs with
  | [] => .error .escapeUnfinished
  | c :: rest =>
    if c = '\x7b' then
      (readHexBraced verbose none (skipTrivia verbose rest)).bind (literalOfPoint false)
    else (readHexDigits verbose count 0 (c :: rest)).bind (literalOfPoint (count == 2))

/-- The texts before and behind the first occurrence of a mark. -/
def splitAtMark? (mark : List Char) : List Char → Option (List Char × List Char)
  | [] => if mark.isEmpty then some ([], []) else none
  | c :: cs =>
    if mark.isPrefixOf (c :: cs) then some ([], (c :: cs).drop mark.length)
    else (splitAtMark? mark cs).map fun (before, behind) => (c :: before, behind)

/-- What the braces of a property class ask for, a name or a property and its
value, and whether the class is to hold the other characters instead, as it is
when `!=` stands between the two. -/
def propertyQuery (name : List Char) : Bool × PropertyQuery :=
  let valued (parts : List Char × List Char) : PropertyQuery :=
    .valued (String.ofList parts.1) (String.ofList parts.2)
  match splitAtMark? ['!', '='] name with
  | some parts => (true, valued parts)
  | none =>
    match splitAtMark? [':'] name with
    | some parts => (false, valued parts)
    | none =>
      match splitAtMark? ['='] name with
      | some parts => (false, valued parts)
      | none => (false, .named (String.ofList name))

/-- The text up to a closing brace, and what is behind the brace. -/
def readBraced (verbose : Bool) (read : List Char) (cs : List Char) :
    Except Error (List Char × List Char) :=
  match cs with
  | [] => .error .escapeUnfinished
  | c :: rest =>
    if c = '\x7d' then .ok (read.reverse, rest)
    else readBraced verbose (c :: read) (skipTrivia verbose rest)
termination_by cs.length
decreasing_by
  have := skipTrivia_length_le verbose rest
  simp only [List.length_cons]
  omega

/-- The class of a Unicode property. -/
def readProperty (verbose negated : Bool) (cs : List Char) :
    Except Error (Primitive × List Char) :=
  match skipTrivia verbose cs with
  | [] => .error .escapeUnfinished
  | c :: rest =>
    if c = '\x7b' then
      match readBraced verbose [] (skipTrivia verbose rest) with
      | .error e => .error e
      | .ok (name, rest) =>
        match propertyQuery name with
        | (excluded, query) => .ok (.property (negated != excluded) query, rest)
    else if c = '\\' then .error .propertyInvalid
    else .ok (.property negated (.named (String.singleton c)), rest)

/-- The characters in the name of a special word boundary. -/
def isBoundaryNameChar (c : Char) : Bool :=
  c.isAlpha || c = '-'

/-- The longest run of name characters, and what is behind it. -/
def readBoundaryName (verbose : Bool) (read : List Char) (cs : List Char) :
    List Char × List Char :=
  match cs with
  | [] => (read.reverse, [])
  | c :: rest =>
    if isBoundaryNameChar c then readBoundaryName verbose (c :: read) (skipTrivia verbose rest)
    else (read.reverse, c :: rest)
termination_by cs.length
decreasing_by
  have := skipTrivia_length_le verbose rest
  simp only [List.length_cons]
  omega

/-- The special word boundaries. -/
def Assertion.ofBoundaryName? : String → Option Assertion
  | "start" => some .wordStart
  | "end" => some .wordEnd
  | "start-half" => some .wordStartHalf
  | "end-half" => some .wordEndHalf
  | _ => none

/-- A word boundary. A brace behind it may name a special one; a brace that is
followed by anything but a name is the start of a counted repetition and is
left alone. -/
def readWordBoundary (verbose : Bool) (cs : List Char) : Except Error (Primitive × List Char) :=
  match cs with
  | '\x7b' :: rest =>
    match skipTrivia verbose rest with
    | [] => .error .wordBoundaryUnfinished
    | c :: inner =>
      if !isBoundaryNameChar c then .ok (.assertion .wordBoundary, cs)
      else
        match readBoundaryName verbose [] (c :: inner) with
        | (name, '\x7d' :: rest) =>
          match Assertion.ofBoundaryName? (String.ofList name) with
          | some a => .ok (.assertion a, rest)
          | none => .error .wordBoundaryUnrecognized
        | _ => .error .wordBoundaryUnclosed
  | _ => .ok (.assertion .wordBoundary, cs)

/-- The escapes that are one letter long and stand for a character. -/
def controlEscape? : Char → Option Char
  | 'a' => some '\x07'
  | 'f' => some '\x0c'
  | 't' => some '\t'
  | 'n' => some '\n'
  | 'r' => some '\r'
  | 'v' => some '\x0b'
  | _ => none

/-- What a backslash and the text behind it stand for. -/
def readEscape (verbose : Bool) : List Char → Except Error (Primitive × List Char)
  | [] => .error .escapeUnfinished
  | c :: rest =>
    if c.isDigit then .error .backreference
    else
      match c with
      | 'x' => readHex verbose 2 rest
      | 'u' => readHex verbose 4 rest
      | 'U' => readHex verbose 8 rest
      | 'p' => readProperty verbose false rest
      | 'P' => readProperty verbose true rest
      | 'd' => .ok (.letter false .digit, rest)
      | 'D' => .ok (.letter true .digit, rest)
      | 's' => .ok (.letter false .space, rest)
      | 'S' => .ok (.letter true .space, rest)
      | 'w' => .ok (.letter false .word, rest)
      | 'W' => .ok (.letter true .word, rest)
      | 'A' => .ok (.assertion .textStart, rest)
      | 'z' => .ok (.assertion .textEnd, rest)
      | 'b' => readWordBoundary verbose rest
      | 'B' => .ok (.assertion .notWordBoundary, rest)
      | '<' => .ok (.assertion .wordStart, rest)
      | '>' => .ok (.assertion .wordEnd, rest)
      | c =>
        if isEscapable c then .ok (.literal (.verbatim c), rest)
        else
          match controlEscape? c with
          | some control => .ok (.literal (.verbatim control), rest)
          | none => .error .escapeUnrecognized

/-! ### What is left is no longer -/

theorem readHexDigits_length_le {verbose : Bool} {count point value : Nat} {cs rest : List Char}
    (h : readHexDigits verbose count point cs = .ok (value, rest)) :
    rest.length ≤ cs.length := by
  fun_induction readHexDigits verbose count point cs with
  | case1 => simp_all
  | case2 => simp at h
  | case3 => simp at h
  | case4 _ _ c cs _ _ ih =>
    have := ih h
    have := skipTrivia_length_le verbose cs
    simp only [List.length_cons]
    omega

theorem readHexBraced_length_le {verbose : Bool} {point? : Option Nat} {value : Nat}
    {cs rest : List Char} (h : readHexBraced verbose point? cs = .ok (value, rest)) :
    rest.length ≤ cs.length := by
  fun_induction readHexBraced verbose point? cs with
  | case1 => simp at h
  | case2 => simp at h
  | case3 tail =>
    simp only [Except.ok.injEq, Prod.mk.injEq] at h
    have := skipTrivia_length_le verbose tail
    rw [← h.2]
    simp only [List.length_cons]
    omega
  | case4 => simp at h
  | case5 _ c tail _ _ _ ih =>
    have := ih h
    have := skipTrivia_length_le verbose tail
    simp only [List.length_cons]
    omega

theorem literalOfPoint_rest {isByte : Bool} {read : Nat × List Char} {p : Primitive}
    {rest : List Char} (h : literalOfPoint isByte read = .ok (p, rest)) : rest = read.2 := by
  obtain ⟨point, tail⟩ := read
  simp only [literalOfPoint] at h
  split at h
  · simp_all
  · simp at h

theorem readHex_length_le {verbose : Bool} {count : Nat} {cs rest : List Char} {p : Primitive}
    (h : readHex verbose count cs = .ok (p, rest)) : rest.length ≤ cs.length := by
  have hskip := skipTrivia_length_le verbose cs
  unfold readHex at h
  split at h
  · simp at h
  · rename_i c tail htail
    rw [htail] at hskip
    simp only [List.length_cons] at hskip
    have := skipTrivia_length_le verbose tail
    split at h
    · cases hr : readHexBraced verbose none (skipTrivia verbose tail) with
      | error e => simp [hr, Except.bind] at h
      | ok read =>
        have := literalOfPoint_rest (by simpa [hr, Except.bind] using h)
        have := readHexBraced_length_le hr
        simp_all only
        omega
    · cases hr : readHexDigits verbose count 0 (c :: tail) with
      | error e => simp [hr, Except.bind] at h
      | ok read =>
        have := literalOfPoint_rest (by simpa [hr, Except.bind] using h)
        have := readHexDigits_length_le hr
        simp_all only [List.length_cons]
        omega

theorem readBraced_length_le {verbose : Bool} {read name cs rest : List Char}
    (h : readBraced verbose read cs = .ok (name, rest)) : rest.length ≤ cs.length := by
  fun_induction readBraced verbose read cs with
  | case1 => simp at h
  | case2 => simp_all
  | case3 _ c tail _ ih =>
    have := ih h
    have := skipTrivia_length_le verbose tail
    simp only [List.length_cons]
    omega

theorem readProperty_length_le {verbose negated : Bool} {cs rest : List Char} {p : Primitive}
    (h : readProperty verbose negated cs = .ok (p, rest)) : rest.length ≤ cs.length := by
  have hskip := skipTrivia_length_le verbose cs
  unfold readProperty at h
  split at h
  · simp at h
  · rename_i c tail htail
    rw [htail] at hskip
    simp only [List.length_cons] at hskip
    have := skipTrivia_length_le verbose tail
    split at h
    · split at h
      · simp at h
      · rename_i name rest' hr
        have := readBraced_length_le hr
        simp only [Except.ok.injEq, Prod.mk.injEq] at h
        rw [← h.2]
        omega
    · split at h
      · simp at h
      · simp only [Except.ok.injEq, Prod.mk.injEq] at h
        rw [← h.2]
        omega

theorem readBoundaryName_length_le (verbose : Bool) (read cs : List Char) :
    (readBoundaryName verbose read cs).2.length ≤ cs.length := by
  fun_induction readBoundaryName verbose read cs with
  | case1 => simp
  | case2 _ c tail _ ih =>
    have := skipTrivia_length_le verbose tail
    simp only [List.length_cons]
    omega
  | case3 => simp

theorem readWordBoundary_length_le {verbose : Bool} {cs rest : List Char} {p : Primitive}
    (h : readWordBoundary verbose cs = .ok (p, rest)) : rest.length ≤ cs.length := by
  unfold readWordBoundary at h
  split at h
  · rename_i tail
    have hskip := skipTrivia_length_le verbose tail
    split at h
    · simp at h
    · rename_i c inner hinner
      rw [hinner] at hskip
      split at h
      · simp_all
      · split at h
        · rename_i name rest' hname
          have hle := readBoundaryName_length_le verbose [] (c :: inner)
          rw [hname] at hle
          split at h
          · simp only [Except.ok.injEq, Prod.mk.injEq] at h
            rw [← h.2]
            simp only [List.length_cons] at hle hskip ⊢
            omega
          · simp at h
        · simp at h
  · simp_all

theorem readEscape_length_le {verbose : Bool} {cs rest : List Char} {p : Primitive}
    (h : readEscape verbose cs = .ok (p, rest)) : rest.length ≤ cs.length := by
  cases cs with
  | nil => simp [readEscape] at h
  | cons c tail =>
    simp only [readEscape] at h
    split at h
    · simp at h
    · refine Nat.le_succ_of_le ?_
      split at h
      case h_1 | h_2 | h_3 => exact readHex_length_le h
      case h_4 | h_5 => exact readProperty_length_le h
      case h_14 => exact readWordBoundary_length_le h
      case h_18 =>
        split at h
        · simp_all
        · split at h
          · simp_all
          · simp at h
      all_goals simp_all

end NodeSieve.Regex
