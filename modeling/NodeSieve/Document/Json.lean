import NodeSieve.Text.Numeral

/-!
# JSON documents

A document keeps what a reader of it may have to tell apart: whether a number
is written as a whole number, how many digits of a number stand behind its
point, the order of the fields of an object and all fields of one name. A
string may hold escapes of surrogates that do not pair up; no text is spelled
that way, so such a string, or an object with such a name, is kept only as
something that can be skipped.
-/

namespace NodeSieve.Document

/-- A number as it is written: a whole number, or `digits · 10 ^ exponent`
where the last `places` digits stand behind a point. -/
inductive JsonNumber where
  | whole (negative : Bool) (magnitude : Nat)
  | decimal (negative : Bool) (digits places : Nat) (exponent : Int)
deriving DecidableEq, Repr

inductive Json where
  | null
  | bool (b : Bool)
  | number (n : JsonNumber)
  | string (s : String)
  | unreadable
  | array (items : List Json)
  | object (fields : List (String × Json))
deriving Repr, Inhabited

namespace Json

def nat (n : Nat) : Json :=
  .number (.whole false n)

def ofStrings (strings : List String) : Json :=
  .array (strings.map .string)

/-- The first field of a name. -/
def get? (j : Json) (name : String) : Option Json :=
  match j with
  | .object fields => fields.lookup name
  | _ => none

end Json

/-! ### Writing -/

def hexDigitChar (n : Nat) : Char :=
  if n < 10 then Char.ofNat ('0'.toNat + n) else Char.ofNat ('a'.toNat + n - 10)

/-- A character inside a string: quotes, backslashes and control characters are
escaped. -/
def Json.escapeChar (c : Char) : List Char :=
  if c = '"' then ['\\', '"']
  else if c = '\\' then ['\\', '\\']
  else if c = '\n' then ['\\', 'n']
  else if c.toNat < 0x20 then
    ['\\', 'u', '0', '0', hexDigitChar (c.toNat / 16), hexDigitChar (c.toNat % 16)]
  else [c]

def Json.renderString (s : String) : String :=
  String.ofList ('"' :: s.toList.flatMap Json.escapeChar ++ ['"'])

/-- The digits of a number, as they are written before and behind its point. -/
def JsonNumber.digitRuns (digits places : Nat) : List Char × List Char :=
  let written := Nat.toDigits 10 digits
  let filled := List.replicate (places + 1 - written.length) '0' ++ written
  (filled.take (filled.length - places), filled.drop (filled.length - places))

/-- The text of a number; one that is not whole has an exponent. -/
def JsonNumber.render : JsonNumber → String
  | .whole negative magnitude => (if negative then "-" else "") ++ toString magnitude
  | .decimal negative digits places exponent =>
    let (before, fraction) := digitRuns digits places
    let mantissa := before ++ if fraction.isEmpty then [] else '.' :: fraction
    (if negative then "-" else "") ++ String.ofList mantissa ++ "e" ++ toString (exponent + places)

mutual

/-- The text of a document, without blanks. -/
def Json.render : Json → String
  | .null => "null"
  | .bool true => "true"
  | .bool false => "false"
  | .number n => n.render
  | .string s => Json.renderString s
  | .unreadable => "\"\\ud800\""
  | .array items => "[" ++ Json.renderItems items ++ "]"
  | .object fields => "\x7b" ++ Json.renderFields fields ++ "\x7d"

def Json.renderItems : List Json → String
  | [] => ""
  | [j] => j.render
  | j :: js => j.render ++ "," ++ Json.renderItems js

def Json.renderFields : List (String × Json) → String
  | [] => ""
  | [(name, j)] => Json.renderString name ++ ":" ++ j.render
  | (name, j) :: fields =>
    Json.renderString name ++ ":" ++ j.render ++ "," ++ Json.renderFields fields

end

/-! ### Tokens -/

/-- The words of a document. A string that no text spells has no text. -/
inductive JsonToken where
  | openBracket
  | closeBracket
  | openBrace
  | closeBrace
  | comma
  | colon
  | null
  | bool (b : Bool)
  | number (n : JsonNumber)
  | string (s : Option String)

def isJsonBlank (c : Char) : Bool :=
  c == ' ' || c == '\t' || c == '\n' || c == '\r'

/-- The characters that the escapes of one letter stand for. -/
def jsonEscape? : Char → Option Char
  | '"' => some '"'
  | '\\' => some '\\'
  | '/' => some '/'
  | 'b' => some '\x08'
  | 'f' => some '\x0c'
  | 'n' => some '\n'
  | 'r' => some '\r'
  | 't' => some '\t'
  | _ => none

/-- What a string is made of: a character, or a UTF-16 unit given by its
number. -/
inductive JsonUnit where
  | char (c : Char)
  | unit (n : Nat)

/-- The units of a string up to its closing quote. -/
def readUnits : List Char → Option (List JsonUnit × List Char)
  | [] => none
  | '"' :: rest => some ([], rest)
  | '\\' :: 'u' :: a :: b :: c :: d :: rest => do
    let n ← Text.numeral? 16 [a, b, c, d]
    let (units, rest) ← readUnits rest
    return (.unit n :: units, rest)
  | '\\' :: e :: rest => do
    let c ← jsonEscape? e
    let (units, rest) ← readUnits rest
    return (.char c :: units, rest)
  | c :: rest =>
    if c.toNat < 0x20 then none
    else do
      let (units, rest) ← readUnits rest
      return (.char c :: units, rest)

def isHighSurrogate (n : Nat) : Bool :=
  0xD800 ≤ n && n < 0xDC00

def isLowSurrogate (n : Nat) : Bool :=
  0xDC00 ≤ n && n < 0xE000

/-- The text that units spell, where all surrogates pair up. -/
def textOfUnits : List JsonUnit → Option (List Char)
  | [] => some []
  | .char c :: units => (textOfUnits units).map (c :: ·)
  | .unit n :: .unit m :: units =>
    if isHighSurrogate n then
      if isLowSurrogate m then
        let point := 0x10000 + (n - 0xD800) * 0x400 + (m - 0xDC00)
        (textOfUnits units).map (Char.ofNat point :: ·)
      else none
    else if isLowSurrogate n then none
    else (textOfUnits (.unit m :: units)).map (Char.ofNat n :: ·)
  | .unit n :: units =>
    if isHighSurrogate n || isLowSurrogate n then none
    else (textOfUnits units).map (Char.ofNat n :: ·)

/-- The digits in front, and what is behind them. -/
def spanDigits (cs : List Char) : List Char × List Char :=
  (cs.takeWhile Char.isDigit, cs.dropWhile Char.isDigit)

/-- The number that digits spell; no digits spell zero. -/
def natOfDigits (digits : List Char) : Nat :=
  (Text.numeral? 10 digits).getD 0

/-- The digits of a fraction, if a point follows; at least one digit has to. -/
def readFraction? : List Char → Option (List Char × List Char)
  | '.' :: rest =>
    match spanDigits rest with
    | ([], _) => none
    | (digits, rest) => some (digits, rest)
  | rest => some ([], rest)

/-- The sign and digits of an exponent, if one follows; no digits mean that
none does. -/
def readExponent? : List Char → Option (Bool × List Char × List Char)
  | [] => some (false, [], [])
  | c :: rest =>
    if c = 'e' ∨ c = 'E' then
      let (negative, rest) := match rest with
        | '-' :: tail => (true, tail)
        | '+' :: tail => (false, tail)
        | tail => (false, tail)
      match spanDigits rest with
      | ([], _) => none
      | (digits, rest) => some (negative, digits, rest)
    else some (false, [], c :: rest)

/-- A number behind its sign. Only zero itself may start with the digit zero. -/
def readNumber? (negative : Bool) (cs : List Char) : Option (JsonNumber × List Char) :=
  let (digits, rest) := spanDigits cs
  if digits.isEmpty || (digits.head? == some '0' && digits.length > 1) then none
  else
    match readFraction? rest with
    | none => none
    | some (fraction, rest) =>
      match readExponent? rest with
      | none => none
      | some (down, exponent, rest) =>
        if fraction.isEmpty && exponent.isEmpty then
          some (.whole negative (natOfDigits digits), rest)
        else
          let e : Int := if down then -(natOfDigits exponent : Int) else natOfDigits exponent
          let places := fraction.length
          some (.decimal negative (natOfDigits (digits ++ fraction)) places (e - places), rest)

/-- The token that starts with a character, and what is behind it. -/
def readJsonToken? (c : Char) (rest : List Char) : Option (JsonToken × List Char) :=
  match c, rest with
  | '[', rest => some (.openBracket, rest)
  | ']', rest => some (.closeBracket, rest)
  | '\x7b', rest => some (.openBrace, rest)
  | '\x7d', rest => some (.closeBrace, rest)
  | ',', rest => some (.comma, rest)
  | ':', rest => some (.colon, rest)
  | 'n', 'u' :: 'l' :: 'l' :: rest => some (.null, rest)
  | 't', 'r' :: 'u' :: 'e' :: rest => some (.bool true, rest)
  | 'f', 'a' :: 'l' :: 's' :: 'e' :: rest => some (.bool false, rest)
  | '"', rest =>
    (readUnits rest).map fun (units, rest) =>
      (.string ((textOfUnits units).map String.ofList), rest)
  | '-', rest => (readNumber? true rest).map fun (n, rest) => (.number n, rest)
  | c, rest => (readNumber? false (c :: rest)).map fun (n, rest) => (.number n, rest)

/-- The tokens of a text. Each token is at least one character long, so as many
steps as there are characters are enough. -/
def jsonTokens? : Nat → List Char → Option (List JsonToken)
  | _, [] => some []
  | 0, _ :: _ => none
  | steps + 1, c :: rest =>
    if isJsonBlank c then jsonTokens? steps rest
    else
      match readJsonToken? c rest with
      | none => none
      | some (token, rest) => (jsonTokens? steps rest).map (token :: ·)

/-! ### Reading -/

/-- A container that is still open, its members latest first. -/
inductive JsonFrame where
  | array (items : List Json)
  | object (fields : List (Option String × Json)) (name : Option String)

/-- What may come next: a value, a value or the end of an empty array, a name
or the end of an empty object, a name, a colon behind a name, or what follows a
finished value. -/
inductive JsonNext where
  | value
  | firstItem
  | firstName
  | name
  | colon
  | behind (j : Json)

/-- The value that a token is by itself. -/
def JsonToken.scalar? : JsonToken → Option Json
  | .null => some .null
  | .bool b => some (.bool b)
  | .number n => some (.number n)
  | .string (some s) => some (.string s)
  | .string none => some .unreadable
  | _ => none

/-- The object of fields, if all their names are texts. -/
def Json.ofFields (fields : List (Option String × Json)) : Json :=
  match fields.mapM fun (name, j) => name.map (·, j) with
  | some fields => .object fields
  | none => .unreadable

/-- The state of reading: the open containers, innermost first, and what may
come next. -/
abbrev JsonState := List JsonFrame × JsonNext

/-- A token where a value may stand. -/
def startJsonValue (maxDepth : Nat) (frames : List JsonFrame) (token : JsonToken) :
    Option JsonState :=
  match token with
  | .openBracket =>
    if frames.length < maxDepth then some (.array [] :: frames, .firstItem) else none
  | .openBrace =>
    if frames.length < maxDepth then some (.object [] none :: frames, .firstName) else none
  | token => token.scalar?.map fun j => (frames, .behind j)

/-- A token where the name of a field may stand. -/
def startJsonField (frames : List JsonFrame) (token : JsonToken) : Option JsonState :=
  match token, frames with
  | .string name, .object fields _ :: frames => some (.object fields name :: frames, .colon)
  | _, _ => none

/-- A token behind a finished value. -/
def endJsonValue (frames : List JsonFrame) (j : Json) (token : JsonToken) : Option JsonState :=
  match token, frames with
  | .comma, .array items :: frames => some (.array (j :: items) :: frames, .value)
  | .closeBracket, .array items :: frames => some (frames, .behind (.array (j :: items).reverse))
  | .comma, .object fields name :: frames =>
    some (.object ((name, j) :: fields) name :: frames, .name)
  | .closeBrace, .object fields name :: frames =>
    some (frames, .behind (.ofFields ((name, j) :: fields).reverse))
  | _, _ => none

def stepJson (maxDepth : Nat) (state : JsonState) (token : JsonToken) : Option JsonState :=
  match state with
  | (frames, .value) => startJsonValue maxDepth frames token
  | (frames, .firstItem) =>
    match token, frames with
    | .closeBracket, _ :: frames => some (frames, .behind (.array []))
    | token, frames => startJsonValue maxDepth frames token
  | (frames, .firstName) =>
    match token, frames with
    | .closeBrace, _ :: frames => some (frames, .behind (.object []))
    | token, frames => startJsonField frames token
  | (frames, .name) => startJsonField frames token
  | (frames, .colon) =>
    match token with
    | .colon => some (frames, .value)
    | _ => none
  | (frames, .behind j) => endJsonValue frames j token

/-- The document that a text spells, if its containers are nested at most
`maxDepth` deep. -/
def Json.parse? (maxDepth : Nat) (text : String) : Option Json := do
  let cs := text.toList
  let tokens ← jsonTokens? cs.length cs
  match ← tokens.foldlM (stepJson maxDepth) ([], .value) with
  | ([], .behind j) => some j
  | _ => none

end NodeSieve.Document
