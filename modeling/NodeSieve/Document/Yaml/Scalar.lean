import NodeSieve.Document.Yaml.Place
import NodeSieve.Text.Numeral

/-!
# The texts of YAML scalars

A scalar is written plainly, in quotes, or as a block of lines. Inside the
first two a single line break counts as a space and further ones as themselves;
of a block the header says whether its breaks are kept. All readers get the
text behind the mark that starts the scalar.
-/

namespace NodeSieve.Document.Yaml

open NodeSieve.Text

/-- Blanks and line breaks between two words of a scalar. An escaped line break
joins the words. -/
structure Gap where
  blanks : List Char
  breaks : Nat
  joined : Bool

namespace Gap

def none : Gap :=
  ⟨[], 0, false⟩

/-- Whether the gap has reached a new line. -/
def isLeading (gap : Gap) : Bool :=
  gap.joined || 0 < gap.breaks

/-- Blanks count only in front of the first line break. -/
def addBlank (gap : Gap) (c : Char) : Gap :=
  if gap.isLeading then gap else { gap with blanks := gap.blanks ++ [c] }

def addBreak (gap : Gap) : Gap :=
  { gap with blanks := [], breaks := gap.breaks + 1 }

/-- What a gap stands for. -/
def text (gap : Gap) : List Char :=
  if gap.joined then List.replicate gap.breaks '\n'
  else if gap.breaks = 0 then gap.blanks
  else if gap.breaks = 1 then [' ']
  else List.replicate (gap.breaks - 1) '\n'

end Gap

/-! ### Plain scalars -/

/-- Whether a character goes on with a plain scalar, given the one behind it. -/
def isPlain (inFlow : Bool) (c next : Char) : Bool :=
  if c = ':' then !(isGap next || (inFlow && isFlow next))
  else !isGap c && !(inFlow && isFlow c)

/-- A plain scalar from its first character, or from `gap` behind the
characters that are read, latest first. It goes on with each line that is
indented far enough. A line that starts with a tab in place of indentation
holds a comment at most, which is skipped. -/
def plainText? (inFlow : Bool) (indent : Int) (read : List Char) (gap : Option Gap)
    (comment : Bool) : List Placed → Option (List Char × List Placed)
  | [] => some (read.reverse, [])
  | p :: rest =>
    let next := charAt 0 rest
    if p.char = '\n' then
      plainText? inFlow indent read (some (gap.getD .none).addBreak) false rest
    else if comment && !isEnd p.char then plainText? inFlow indent read gap true rest
    else if isBlank p.char then
      let outdentedTab := p.isLeading && p.column < indent && p.char == '\t'
      if outdentedTab && !lineIsEmpty (p :: rest) then none
      else
        plainText? inFlow indent read (some ((gap.getD .none).addBlank p.char)) outdentedTab rest
    else
      let startsWord := read.isEmpty || gap.isSome
      let outdented := !inFlow && gap.isSome && p.column < indent
      if startsWord && (p.char == '#' || isDocumentBound (p :: rest) || outdented) then
        some (read.reverse, p :: rest)
      else if startsWord && inFlow && p.char == '-' && isFlow next then none
      else if isPlain inFlow p.char next then
        plainText? inFlow indent (p.char :: (gap.getD .none).text.reverse ++ read) none false rest
      else some (read.reverse, p :: rest)

/-! ### Quoted scalars -/

/-- The character of a code point in so many hexadecimal digits. -/
def pointEscape? (count : Nat) (cs : List Char) : Option (Char × Nat) :=
  if cs.length < count then none
  else ((numeral? 16 (cs.take count)).bind charOfPoint?).map (·, count + 1)

/-- The character that an escape stands for, and the length of the escape
behind its backslash. -/
def escape? : List Char → Option (Char × Nat)
  | '0' :: _ => some ('\x00', 1)
  | 'a' :: _ => some ('\x07', 1)
  | 'b' :: _ => some ('\x08', 1)
  | 't' :: _ | '\t' :: _ => some ('\t', 1)
  | 'n' :: _ => some ('\n', 1)
  | 'v' :: _ => some ('\x0b', 1)
  | 'f' :: _ => some ('\x0c', 1)
  | 'r' :: _ => some ('\r', 1)
  | 'e' :: _ => some ('\x1b', 1)
  | ' ' :: _ => some (' ', 1)
  | '"' :: _ => some ('"', 1)
  | '/' :: _ => some ('/', 1)
  | '\\' :: _ => some ('\\', 1)
  | 'N' :: _ => some ('\u0085', 1)
  | '_' :: _ => some ('\u00a0', 1)
  | 'L' :: _ => some ('\u2028', 1)
  | 'P' :: _ => some ('\u2029', 1)
  | 'x' :: rest => pointEscape? 2 rest
  | 'u' :: rest => pointEscape? 4 rest
  | 'U' :: rest => pointEscape? 8 rest
  | _ => none

/-- The character that stands inside quotes, and how many characters behind the
first belong to it: a single quote is written twice, double quotes hold
escapes. The closing quote is none. -/
def quotedChar? (quote : Char) (cs : List Placed) : Option (Char × Nat) :=
  let c := charAt 0 cs
  if c = quote then
    if quote = '\'' ∧ charAt 1 cs = '\'' then some ('\'', 1) else none
  else if c = '\\' ∧ quote = '"' then escape? (((cs.drop 1).take 9).map Placed.char)
  else some (c, 0)

/-- A scalar up to its closing quote, after `skip` characters; `read` are the
characters that are read, latest first. Its lines are indented, unless the
closing quote stands right behind an escaped line break, and a mark of a
document does not stand inside. -/
def quotedText? (quote : Char) (indent : Int) (read : List Char) (gap : Gap) (skip : Nat) :
    List Placed → Option (List Char × List Placed)
  | [] => none
  | p :: rest =>
    match skip with
    | skip + 1 => quotedText? quote indent read gap skip rest
    | 0 =>
      if isBlank p.char then
        if gap.isLeading && p.char == '\t' && p.column < indent then none
        else quotedText? quote indent read (gap.addBlank p.char) 0 rest
      else if p.char = '\n' then quotedText? quote indent read gap.addBreak 0 rest
      else if gap.joined ∧ gap.breaks = 0 ∧ p.column = 0 ∧ p.char = quote then
        some (read.reverse, rest)
      else if isEnd p.char || p.column < indent || isDocumentBound (p :: rest) then none
      else if quote = '"' ∧ p.char = '\\' ∧ charAt 0 rest = '\n' then
        quotedText? quote indent (gap.text.reverse ++ read) ⟨[], 0, true⟩ 1 rest
      else if p.char = quote ∧ (quote = '"' ∨ charAt 0 rest ≠ '\'') then
        some ((gap.text.reverse ++ read).reverse, rest)
      else
        match quotedChar? quote (p :: rest) with
        | none => none
        | some (c, length) =>
          quotedText? quote indent (c :: gap.text.reverse ++ read) .none length rest

/-! ### Blocks of lines -/

/-- What becomes of the line breaks behind a block: none, one or all of them
are kept. -/
inductive Chomping where
  | strip
  | clip
  | keep
deriving DecidableEq, Repr

def chompingOf? : Char → Option Chomping
  | '-' => some .strip
  | '+' => some .keep
  | _ => none

/-- The header of a block: its chomping and the depth of its lines, where that
is given. -/
structure BlockHeader where
  chomping : Chomping
  depth : Option Nat

/-- An indentation indicator is a digit other than zero. -/
def depthOf? (c : Char) : Option (Option Nat) :=
  if c = '0' then none
  else if c.isDigit then some (some (c.toNat - '0'.toNat))
  else some none

/-- The header's two indicators, in either order. -/
def blockHeader? (cs : List Placed) : Option (BlockHeader × List Placed) :=
  match chompingOf? (charAt 0 cs) with
  | some chomping => do
    let depth ← depthOf? (charAt 1 cs)
    return (⟨chomping, depth⟩, cs.drop (if depth.isSome then 2 else 1))
  | none => do
    match ← depthOf? (charAt 0 cs) with
    | none => return (⟨.clip, none⟩, cs)
    | some depth =>
      match chompingOf? (charAt 1 cs) with
      | some chomping => return (⟨chomping, some depth⟩, cs.drop 2)
      | none => return (⟨.clip, some depth⟩, cs.drop 1)

/-- Skips the indentation of a line, and all empty lines in front of it, which
are counted. -/
def skipIndent (indent : Nat) (breaks : Nat) : List Placed → Nat × List Placed
  | [] => (breaks, [])
  | p :: rest =>
    if p.char = ' ' ∧ p.column < indent then skipIndent indent breaks rest
    else if p.char = '\n' then skipIndent indent (breaks + 1) rest
    else (breaks, p :: rest)

/-- Skips to the first line that is not empty; answers the greatest column on
the way as well. -/
def firstIndent (greatest breaks : Nat) : List Placed → Nat × Nat × List Placed
  | [] => (greatest, breaks, [])
  | p :: rest =>
    if p.char = ' ' then firstIndent greatest breaks rest
    else if p.char = '\n' then firstIndent (max greatest p.column) (breaks + 1) rest
    else (max greatest p.column, breaks, p :: rest)

/-- The lines of a block that are read: their text, whether a line break is
behind it, the empty lines behind that, and whether the last line starts with a
blank. -/
structure BlockLines where
  text : List Char
  ended : Bool
  empty : Nat
  blank : Bool

/-- The breaks in front of a line. A folded block makes a space of a single
one, and leaves one out of several, unless the line in front or behind starts
with a blank. -/
def BlockLines.breaks (lines : BlockLines) (literal nextBlank : Bool) : List Char :=
  if !literal && lines.ended && !lines.blank && !nextBlank then
    if lines.empty = 0 then [' '] else List.replicate lines.empty '\n'
  else List.replicate ((if lines.ended then 1 else 0) + lines.empty) '\n'

/-- The lines of a block at its indentation, of which there are no more than
characters. -/
def blockLines (literal : Bool) (indent : Nat) :
    Nat → BlockLines → List Placed → BlockLines × List Placed
  | 0, lines, cs => (lines, cs)
  | rounds + 1, lines, cs =>
    let c := charAt 0 cs
    if (front cs).column ≠ indent ∨ isEnd c ∨ (indent = 0 ∧ isDocumentBound cs) then (lines, cs)
    else
      let content := (cs.takeWhile (!isBreakOrEnd ·.char)).map Placed.char
      let text := lines.text ++ lines.breaks literal (isBlank c) ++ content
      let rest := dropLine cs
      if isEnd (charAt 0 rest) then (⟨text, false, 0, isBlank c⟩, rest)
      else
        let (empty, rest) := skipIndent indent 0 (rest.drop 1)
        blockLines literal indent rounds ⟨text, true, empty, isBlank c⟩ rest

/-- A block scalar inside a collection of the given indentation. -/
def blockText? (literal : Bool) (outer : Int) (cs : List Placed) :
    Option (List Char × List Placed) := do
  let (header, rest) ← blockHeader? cs
  let (_, rest) ← spanBlanks? true rest
  if !isBreakOrEnd (charAt 0 rest) then none
  else
    let broken := charAt 0 rest == '\n'
    let rest := if broken then rest.drop 1 else rest
    if charAt 0 rest = '\t' then none
    else
      let (indent, empty, rest) := match header.depth with
        | some depth =>
          let indent := (max outer 0).toNat + depth
          let (empty, rest) := skipIndent indent 0 rest
          (indent, empty, rest)
        | none =>
          let (greatest, empty, rest) := firstIndent 0 0 rest
          let least := (outer + 1).toNat
          (max greatest (if 0 < outer then max least 1 else least), empty, rest)
      if isEnd (charAt 0 rest) then
        let text := match header.chomping with
          | .strip => []
          | .clip => if broken then ['\n'] else []
          | .keep => if broken then List.replicate (max empty 1) '\n' else []
        return (text, rest)
      else if (front rest).column < indent ∧ outer < (front rest).column then none
      else
        let (lines, rest) := blockLines literal indent cs.length ⟨[], false, empty, false⟩ rest
        let atEnd := isEnd (charAt 0 rest) && max indent 1 ≤ (front rest).column
        let tail := match header.chomping with
          | .strip => 0
          | .clip => (if lines.ended then 1 else 0) + (if atEnd then 1 else 0)
          | .keep => (if lines.ended then 1 else 0) + (if atEnd then 1 else 0) + lines.empty
        return (lines.text ++ List.replicate tail '\n', rest)

end NodeSieve.Document.Yaml
