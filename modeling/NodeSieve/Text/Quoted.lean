import NodeSieve.Unicode.Additions

/-!
# Quoted text

A text between double quotes in which every character can be seen: quotes and
backslashes are escaped, and so is whatever does not print or would merge with
the character before it.
-/

namespace NodeSieve.Text

open NodeSieve.Unicode

/-- Controls, format characters, separators other than the space, characters
that are ignored where a font lacks them, and what is no character of the
standard. -/
def unprintableSet : CharSet :=
  [unassigned.diff (runsOf additionRuns "Assigned"),
    runsOf binaryPropertyRuns "Default_Ignorable_Code_Point"].foldl CharSet.union
    (unionOf generalCategoryRuns ["Cc", "Cf", "Co", "Zl", "Zp", "Zs"])
    |>.diff (.singleton ' ')

/-- The two voicing marks of half width, which extend what is before them and
can stand alone. -/
def halfwidthVoicingMarks : CharSet := ⟨[⟨0xFF9E, 0xFF9F⟩]⟩

/-- Marks that extend the character before them and can not be seen apart from
it. -/
def extendingSet : CharSet :=
  ((runsOf binaryPropertyRuns "Grapheme_Extend").withAdditions "Grapheme_Extend").diff
    halfwidthVoicingMarks

/-- A character inside quotes. -/
def quoteChar (c : Char) : List Char :=
  match c with
  | '\x00' => ['\\', '0']
  | '\t' => ['\\', 't']
  | '\r' => ['\\', 'r']
  | '\n' => ['\\', 'n']
  | '\\' => ['\\', '\\']
  | '"' => ['\\', '"']
  | c =>
    if extendingSet.contains c || unprintableSet.contains c then
      ['\\', 'u', '\x7b'] ++ Nat.toDigits 16 c.toNat ++ ['\x7d']
    else [c]

/-- A text between double quotes. -/
def quoted (text : String) : String :=
  String.ofList ('"' :: text.toList.flatMap quoteChar ++ ['"'])

end NodeSieve.Text
