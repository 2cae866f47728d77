/-!
# Places in a YAML text

What a character of YAML means depends on its column and on what stands in
front of it on its line. So a text is read as a list of characters that know
their places. It ends with a null character, which may also stand earlier and
ends the text there.
-/

namespace NodeSieve.Document.Yaml

/-- A character in its place; `isLeading` if only blanks stand in front of it
on its line. -/
structure Placed where
  char : Char
  line : Nat
  column : Nat
  index : Nat
  isLeading : Bool
deriving Repr, Inhabited

def isBlank (c : Char) : Bool :=
  c == ' ' || c == '\t'

def isEnd (c : Char) : Bool :=
  c == '\x00'

def isBreakOrEnd (c : Char) : Bool :=
  c == '\n' || isEnd c

def isGap (c : Char) : Bool :=
  isBlank c || isBreakOrEnd c

/-- The characters that make up flow collections. -/
def isFlow (c : Char) : Bool :=
  c ∈ [',', '[', ']', '\x7b', '\x7d']

/-- Line breaks are line feeds, carriage returns, or one behind the other. -/
def unifyBreaks : List Char → List Char
  | '\r' :: '\n' :: rest => '\n' :: unifyBreaks rest
  | '\r' :: rest => '\n' :: unifyBreaks rest
  | c :: rest => c :: unifyBreaks rest
  | [] => []

def placeFrom (line column index : Nat) (leading : Bool) : List Char → List Placed
  | [] => [⟨'\x00', line, column, index, leading⟩]
  | c :: cs =>
    ⟨c, line, column, index, leading⟩ ::
      if c = '\n' then placeFrom (line + 1) 0 (index + 1) true cs
      else placeFrom line (column + 1) (index + 1) (leading && isBlank c) cs

/-- The characters of a text in their places. -/
def place (text : String) : List Placed :=
  placeFrom 0 0 0 true (unifyBreaks text.toList)

/-- The first character of what is left. -/
def front (cs : List Placed) : Placed :=
  cs.head?.getD ⟨'\x00', 0, 0, 0, false⟩

/-- The character at a distance. -/
def charAt (distance : Nat) (cs : List Placed) : Char :=
  (front (cs.drop distance)).char

/-- Whether a line that starts here marks the start or the end of a document. -/
def isDocumentMark (mark : Char) (cs : List Placed) : Bool :=
  (front cs).column == 0 && (cs.take 3).map Placed.char == [mark, mark, mark] && isGap (charAt 3 cs)

def isDocumentBound (cs : List Placed) : Bool :=
  isDocumentMark '-' cs || isDocumentMark '.' cs

/-- Whether nothing but blanks or a comment is left of the line. -/
def lineIsEmpty (cs : List Placed) : Bool :=
  let c := charAt 0 (cs.dropWhile (isBlank ·.char))
  isBreakOrEnd c || c == '#'

def dropLine (cs : List Placed) : List Placed :=
  cs.dropWhile (!isBreakOrEnd ·.char)

/-- What is left behind spaces, line breaks and comments. -/
def dropSpaces (comment : Bool) : List Placed → List Placed
  | [] => []
  | p :: rest =>
    if p.char = '\n' then dropSpaces false rest
    else if !isEnd p.char && (comment || p.char == ' ') then dropSpaces comment rest
    else if p.char = '#' then dropSpaces true rest
    else p :: rest

/-- The blanks that come next, and what is behind them and behind a comment. A
comment has to be parted by a blank from what is in front of it. -/
def spanBlanks? (tabs : Bool) (cs : List Placed) : Option (List Char × List Placed) :=
  let blank (p : Placed) : Bool := p.char == ' ' || (tabs && p.char == '\t')
  let blanks := (cs.takeWhile blank).map Placed.char
  let rest := cs.dropWhile blank
  if charAt 0 rest = '#' then
    if blanks.isEmpty then none else some (blanks, dropLine rest)
  else some (blanks, rest)

end NodeSieve.Document.Yaml
