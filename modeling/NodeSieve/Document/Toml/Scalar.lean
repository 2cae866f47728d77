import NodeSieve.Document.Setting

/-!
# Scalars of TOML

Truth values, whole numbers of 64 bits, fractions and dates. Dates and times
are kept as texts, in one form: a `T` between date and time, and no more zeros
at the end of a fraction than it needs.
-/

namespace NodeSieve.Document.Toml

open NodeSieve.Text

/-- The digits of a numeral whose digits may be parted by single underscores. -/
def ungrouped? : List Char → Option (List Char)
  | [] => none
  | c :: rest =>
    if c = '_' then none
    else
      match rest with
      | [] => some [c]
      | '_' :: rest => (ungrouped? rest).map (c :: ·)
      | rest => (ungrouped? rest).map (c :: ·)

/-- A sign, and what is behind it. -/
def splitSign : List Char → Bool × List Char
  | '-' :: rest => (true, rest)
  | '+' :: rest => (false, rest)
  | cs => (false, cs)

def hasLeadingZero (digits : List Char) : Bool :=
  digits.head? == some '0' && digits.length > 1

def ofNumeral? (radix : Nat) (negative : Bool) (cs : List Char) : Option Setting := do
  let n ← numeral? radix (← ungrouped? cs)
  (int64? negative n).map .whole

/-- A whole number, which has no sign unless its radix is ten. -/
def whole? : List Char → Option Setting
  | '0' :: 'x' :: rest => ofNumeral? 16 false rest
  | '0' :: 'o' :: rest => ofNumeral? 8 false rest
  | '0' :: 'b' :: rest => ofNumeral? 2 false rest
  | cs =>
    let (negative, digits) := splitSign cs
    if hasLeadingZero digits then none else ofNumeral? 10 negative digits

def isGrouped (c : Char) : Bool :=
  c.isDigit || c == '_'

/-- The digits of a fraction, if a point follows; none are read without one. -/
def fraction? : List Char → Option (List Char × List Char)
  | '.' :: rest => (ungrouped? (rest.takeWhile isGrouped)).map (·, rest.dropWhile isGrouped)
  | rest => some ([], rest)

/-- The exponent, which ends the number; none is zero. -/
def exponent? : List Char → Option Int
  | [] => some 0
  | c :: rest =>
    if c = 'e' ∨ c = 'E' then do
      let (negative, digits) := splitSign rest
      let n ← numeral? 10 (← ungrouped? digits)
      return if negative then -n else n
    else none

/-- A number with a fraction or an exponent, or one of the words for what is no
finite number. A number too large is none. -/
def float? (cs : List Char) : Option Setting :=
  match splitSign cs with
  | (negative, ['i', 'n', 'f']) => some (.float (.infinity negative))
  | (_, ['n', 'a', 'n']) => some (.float .nan)
  | (negative, cs) => do
    let whole ← ungrouped? (cs.takeWhile isGrouped)
    let (fraction, rest) ← fraction? (cs.dropWhile isGrouped)
    let exponent ← exponent? rest
    let digits ← numeral? 10 (whole ++ fraction)
    let x := Binary64.ofDecimal negative digits (exponent - fraction.length)
    let isWhole := (cs.dropWhile isGrouped).isEmpty
    if isWhole || hasLeadingZero whole || x.isInfinite then none else some (.float x)

/-! ### Dates and times -/

/-- A number of two digits up to a bound. -/
def twoDigits? (bound : Nat) (a b : Char) : Option Nat := do
  let n ← numeral? 10 [a, b]
  if n ≤ bound then some n else none

def isLeapYear (year : Nat) : Bool :=
  (year % 4 == 0 && year % 100 != 0) || year % 400 == 0

def daysOfMonth (year month : Nat) : Nat :=
  if month == 2 then (if isLeapYear year then 29 else 28)
  else if month ∈ [4, 6, 9, 11] then 30 else 31

def date? : List Char → Option (List Char × List Char)
  | a :: b :: c :: d :: '-' :: e :: f :: '-' :: g :: h :: rest => do
    let year ← numeral? 10 [a, b, c, d]
    let month ← twoDigits? 12 e f
    let day ← twoDigits? (daysOfMonth year month) g h
    if month == 0 || day == 0 then none
    else some ([a, b, c, d, '-', e, f, '-', g, h], rest)
  | _ => none

/-- The fraction of a second, to nine digits and without zeros at its end
behind the first digit. -/
def secondFraction? : List Char → Option (List Char × List Char)
  | '.' :: rest =>
    match rest.takeWhile Char.isDigit with
    | [] => none
    | digits =>
      let kept := ((digits.take 9).reverse.dropWhile (· == '0')).reverse
      some ('.' :: (if kept.isEmpty then ['0'] else kept), rest.dropWhile Char.isDigit)
  | rest => some ([], rest)

/-- A time of day; the seconds may be missing. -/
def time? : List Char → Option (List Char × List Char)
  | a :: b :: ':' :: c :: d :: rest => do
    let _ ← twoDigits? 23 a b
    let _ ← twoDigits? 59 c d
    match rest with
    | ':' :: e :: f :: rest =>
      let _ ← twoDigits? 60 e f
      let (fraction, rest) ← secondFraction? rest
      return (a :: b :: ':' :: c :: d :: ':' :: e :: f :: fraction, rest)
    | rest => return ([a, b, ':', c, d], rest)
  | _ => none

/-- The distance from universal time, which ends a date. No distance at all has
a plus sign. -/
def offset? : List Char → Option (List Char)
  | [] => some []
  | ['Z'] | ['z'] => some ['Z']
  | [sign, a, b, ':', c, d] => do
    let hours ← twoDigits? 23 a b
    let minutes ← twoDigits? 59 c d
    if sign = '+' ∨ (sign = '-' ∧ hours = 0 ∧ minutes = 0) then some ['+', a, b, ':', c, d]
    else if sign = '-' then some ['-', a, b, ':', c, d]
    else none
  | _ => none

/-- A date, a time of day, or both with or without an offset. -/
def moment? (cs : List Char) : Option (List Char) :=
  match date? cs with
  | some (date, []) => some date
  | some (date, c :: rest) => do
    let (time, rest) ← time? rest
    let offset ← offset? rest
    if c = 'T' ∨ c = 't' ∨ c = ' ' then some (date ++ 'T' :: time ++ offset) else none
  | none => do
    let (time, rest) ← time? cs
    if rest.isEmpty then some time else none

/-! ### Scalars -/

def isScalarChar (c : Char) : Bool :=
  c.isAlphanum || c ∈ ['+', '-', '_', '.', ':']

/-- The characters of a scalar that is not quoted. A date may be parted from
its time by a space. -/
def spanScalar (cs : List Char) : List Char × List Char :=
  let word := cs.takeWhile isScalarChar
  match (date? word), cs.dropWhile isScalarChar with
  | some (_, []), ' ' :: d :: rest =>
    if d.isDigit then
      (word ++ ' ' :: (d :: rest).takeWhile isScalarChar, (d :: rest).dropWhile isScalarChar)
    else (word, ' ' :: d :: rest)
  | _, rest => (word, rest)

/-- The scalar that characters spell. -/
def scalar? (cs : List Char) : Option Setting :=
  match String.ofList cs with
  | "true" => some (.bool true)
  | "false" => some (.bool false)
  | _ => (whole? cs).or ((float? cs).or ((moment? cs).map fun cs => .text (String.ofList cs)))

end NodeSieve.Document.Toml
