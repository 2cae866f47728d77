/-!
# Quoted groups

A group of patterns stands between single quotes, and commas separate its
patterns. A backslash protects the character behind it from both. A comma
inside parentheses, braces or a bracketed class belongs to its pattern, so
`^a\x7b1,3\x7d$,^b$` is two patterns; the scanner that decides this keeps only
what it needs of a pattern's structure.
-/

namespace NodeSieve.Definition

/-- The content of a group behind its opening quote, and what is behind the
closing quote. -/
def readQuoted? : List Char → Option (List Char × List Char)
  | [] => none
  | '\'' :: rest => some ([], rest)
  | '\\' :: c :: rest => (readQuoted? rest).map fun (content, rest) => ('\\' :: c :: content, rest)
  | c :: rest => (readQuoted? rest).map fun (content, rest) => (c :: content, rest)

/-- What the next character of a class can still be: right behind the opening
bracket a caret negates and a closing bracket is a member, and right behind
that caret so is a closing bracket. -/
inductive ClassOpening where
  | none
  | bracket
  | caret
deriving DecidableEq, Repr

/-- The state of the scanner between two characters. -/
structure Scan where
  escaped : Bool
  classDepth : Nat
  opening : ClassOpening
  nesting : Nat
deriving DecidableEq, Repr

namespace Scan

def start : Scan := ⟨false, 0, .none, 0⟩

/-- A comma separates patterns only outside of everything. -/
def separatesAt (s : Scan) : Bool :=
  !s.escaped && s.classDepth == 0 && s.nesting == 0

/-- The state behind a character that is not escaped and stands in a class. -/
def nextInClass (s : Scan) (c : Char) : Scan :=
  match c with
  | '[' => { s with classDepth := s.classDepth + 1, opening := .bracket }
  | '^' => { s with opening := if s.opening = .bracket then .caret else .none }
  | ']' =>
    if s.opening = .none then { s with classDepth := s.classDepth - 1 }
    else { s with opening := .none }
  | _ => { s with opening := .none }

/-- The state behind a character that is not escaped and stands outside of
classes. -/
def nextOutside (s : Scan) (c : Char) : Scan :=
  match c with
  | '[' => { s with classDepth := 1, opening := .bracket }
  | '(' | '\x7b' => { s with nesting := s.nesting + 1 }
  | ')' | '\x7d' => { s with nesting := s.nesting - 1 }
  | _ => s

/-- The state behind a character. -/
def next (s : Scan) (c : Char) : Scan :=
  if s.escaped then { s with escaped := false, opening := .none }
  else if c = '\\' then { s with escaped := true, opening := .none }
  else if s.classDepth = 0 then s.nextOutside c
  else s.nextInClass c

end Scan

/-- The patterns of the rest of a group, the first of them begun before; a
state in which a comma separates is the same before and behind the comma. -/
def splitFrom (s : Scan) : List Char → List (List Char)
  | [] => [[]]
  | c :: cs =>
    if c = ',' ∧ s.separatesAt then [] :: splitFrom s cs
    else
      match splitFrom (s.next c) cs with
      | [] => [[c]]
      | piece :: pieces => (c :: piece) :: pieces

/-- The patterns of a group. -/
def splitPatterns (group : List Char) : List (List Char) :=
  splitFrom .start group

/-- Escapes resolved character by character; a backslash at the end stands for
nothing. -/
def unescapeEach : List Char → List Char
  | [] => []
  | ['\\'] => []
  | '\\' :: c :: cs => c :: unescapeEach cs
  | c :: cs => c :: unescapeEach cs

/-- A type's name without its escapes. A text without a backslash is the name
as it stands. -/
def unescape (literal : List Char) : List Char :=
  if '\\' ∈ literal then unescapeEach literal else literal

theorem unescapeEach_cons_of_ne {c : Char} (hc : c ≠ '\\') (cs : List Char) :
    unescapeEach (c :: cs) = c :: unescapeEach cs := by
  rw [unescapeEach]
  · exact fun h _ => hc h
  · exact fun _ _ h _ => hc h

/-- Where there is no backslash, there is nothing to resolve. -/
theorem unescapeEach_of_not_mem {literal : List Char} (h : '\\' ∉ literal) :
    unescapeEach literal = literal := by
  induction literal with
  | nil => rfl
  | cons c cs ih =>
      rw [List.mem_cons, not_or] at h
      rw [unescapeEach_cons_of_ne (Ne.symm h.1), ih h.2]

theorem unescape_eq_unescapeEach (literal : List Char) :
    unescape literal = unescapeEach literal := by
  rw [unescape]
  split
  · rfl
  · next h => exact (unescapeEach_of_not_mem h).symm

end NodeSieve.Definition
