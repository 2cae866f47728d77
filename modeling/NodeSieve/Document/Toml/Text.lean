import NodeSieve.Text.Numeral

/-!
# Texts and keys of TOML

A text stands in one or in three quotes, double ones with escapes and single
ones without. Three quotes let it run over several lines; a line break right
behind them does not count. A key is a bare name or a text on one line, and
dots make a path of keys.

A line break is a line feed, or a carriage return and a line feed. The pair is
one character here, a carriage return, which has no other use. A control
character other than the tab stands nowhere.
-/

namespace NodeSieve.Document.Toml

open NodeSieve.Text

def isBlank (c : Char) : Bool :=
  c == ' ' || c == '\t'

def isBreak (c : Char) : Bool :=
  c == '\n' || c == '\r'

def isBlankOrBreak (c : Char) : Bool :=
  isBlank c || isBreak c

/-- Makes one character of each line break. A carriage return by itself is
none. -/
def markBreaks? : List Char → Option (List Char)
  | [] => some []
  | '\r' :: '\n' :: rest => (markBreaks? rest).map ('\r' :: ·)
  | c :: rest => if c = '\r' then none else (markBreaks? rest).map (c :: ·)

/-- A character of a text over several lines, as it is written. -/
def written (c : Char) : List Char :=
  if c = '\r' then ['\r', '\n'] else [c]

def dropBlanks (cs : List Char) : List Char :=
  cs.dropWhile isBlank

def isControl (c : Char) : Bool :=
  (c.toNat < 0x20 && c != '\t') || c == '\x7f'

/-- The character of a code point in so many hexadecimal digits. -/
def pointEscape? (count : Nat) (cs : List Char) : Option (Char × Nat) :=
  if cs.length < count then none
  else
    ((numeral? 16 (cs.take count)).bind charOfPoint?).map (·, count + 1)

/-- The character that an escape stands for, and the length of the escape
behind its backslash. -/
def escape? : List Char → Option (Char × Nat)
  | 'b' :: _ => some ('\x08', 1)
  | 't' :: _ => some ('\t', 1)
  | 'n' :: _ => some ('\n', 1)
  | 'f' :: _ => some ('\x0c', 1)
  | 'r' :: _ => some ('\r', 1)
  | 'e' :: _ => some ('\x1b', 1)
  | '"' :: _ => some ('"', 1)
  | '\\' :: _ => some ('\\', 1)
  | 'x' :: rest => pointEscape? 2 rest
  | 'u' :: rest => pointEscape? 4 rest
  | 'U' :: rest => pointEscape? 8 rest
  | _ => none

/-- What is left of a text up to its double quote, after `skip` characters. -/
def basicText? (skip : Nat) : List Char → Option (List Char × List Char)
  | [] => none
  | c :: rest =>
    match skip with
    | skip + 1 => basicText? skip rest
    | 0 =>
      if c = '"' then some ([], rest)
      else if c = '\\' then
        match escape? rest with
        | none => none
        | some (e, length) => (basicText? length rest).map fun (cs, rest) => (e :: cs, rest)
      else if isControl c then none
      else (basicText? 0 rest).map fun (cs, rest) => (c :: cs, rest)

/-- The quotes in front of the three that end a text: a run of up to five
belongs together. -/
def closingQuotes (quote : Char) (rest : List Char) : List Char × List Char :=
  let extra := (rest.takeWhile (· == quote)).take 2
  (extra, rest.drop extra.length)

/-- Whether only blanks stand in front of the next line break. -/
def endsLine (cs : List Char) : Bool :=
  (dropBlanks cs).head?.any isBreak

/-- What is left of a text up to three double quotes. Behind a backslash at the
end of a line all blanks and breaks are left out. -/
def basicLines? (skip : Nat) (trim : Bool) : List Char → Option (List Char × List Char)
  | [] => none
  | c :: rest =>
    match skip with
    | skip + 1 => basicLines? skip false rest
    | 0 =>
      if trim && isBlankOrBreak c then basicLines? 0 true rest
      else if c = '"' ∧ rest.take 2 = ['"', '"'] then some (closingQuotes '"' (rest.drop 2))
      else if c = '\\' then
        if endsLine rest then basicLines? 0 true rest
        else
          match escape? rest with
          | none => none
          | some (e, length) =>
            (basicLines? length false rest).map fun (cs, rest) => (e :: cs, rest)
      else if isControl c && !isBreak c then none
      else (basicLines? 0 false rest).map fun (cs, rest) => (written c ++ cs, rest)

/-- What is left of a text up to its single quote. -/
def literalText? : List Char → Option (List Char × List Char)
  | [] => none
  | c :: rest =>
    if c = '\'' then some ([], rest)
    else if isControl c then none
    else (literalText? rest).map fun (cs, rest) => (c :: cs, rest)

/-- What is left of a text up to three single quotes. -/
def literalLines? : List Char → Option (List Char × List Char)
  | [] => none
  | c :: rest =>
    if c = '\'' ∧ rest.take 2 = ['\'', '\''] then some (closingQuotes '\'' (rest.drop 2))
    else if isControl c && !isBreak c then none
    else (literalLines? rest).map fun (cs, rest) => (written c ++ cs, rest)

def dropBreak : List Char → List Char
  | [] => []
  | c :: rest => if isBreak c then rest else c :: rest

/-- The text that starts with a quote; `none` also if there is no quote. -/
def quoted? : List Char → Option (List Char × List Char)
  | '"' :: '"' :: '"' :: rest => basicLines? 0 false (dropBreak rest)
  | '"' :: rest => basicText? 0 rest
  | '\'' :: '\'' :: '\'' :: rest => literalLines? (dropBreak rest)
  | '\'' :: rest => literalText? rest
  | _ => none

def isBare (c : Char) : Bool :=
  c.isAlphanum || c == '_' || c == '-'

/-- A single key. -/
def key? : List Char → Option (String × List Char)
  | '"' :: rest => (basicText? 0 rest).map fun (cs, rest) => (String.ofList cs, rest)
  | '\'' :: rest => (literalText? rest).map fun (cs, rest) => (String.ofList cs, rest)
  | cs =>
    match cs.takeWhile isBare with
    | [] => none
    | name => some (String.ofList name, cs.dropWhile isBare)

/-- A path of at most so many keys, with blanks around its dots, behind which
the blanks are dropped. -/
def keys? : Nat → List Char → Option (List String × List Char)
  | 0, _ => none
  | most + 1, cs => do
    let (name, rest) ← key? cs
    match dropBlanks rest with
    | '.' :: rest =>
      let (names, rest) ← keys? most (dropBlanks rest)
      return (name :: names, rest)
    | rest => return ([name], rest)

/-- The greatest depth of a document: of brackets and braces, and of a path of
keys. -/
def maxDepth : Nat := 80

/-- A path of keys. -/
def keyPath? (cs : List Char) : Option (List String × List Char) :=
  keys? maxDepth cs

end NodeSieve.Document.Toml
