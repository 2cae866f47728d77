import NodeSieve.Unicode.Property

/-!
# Additions of the latest version

The properties that a pattern asks for are those of version 16 of the standard.
Names inside a pattern and quoted texts go by version 17, in which no character
of version 16 lost a property that matters here, so the difference is what
version 17 added.
-/

namespace NodeSieve.Unicode

/-- The characters that version 17 added, and those of them that have a
property. -/
def additionRuns : List (String × List String) := [
  ("Assigned", [
    "DGhbBLkbExbFHipcmCFlbECqbBVBbccbbbBcbBFThqRdcCchEIrBaCBjdijBhcESaiWmBsekBEOszczLafJCjiBX",
    "pwDtElXWpdRdxprJAlBfbwicGAabGceNdjOpeBybdbCfbebBcbebKgbCSXrgIWgmBGFaGJi"]),
  ("Alphabetic", [
    "DGhbBLkbExbCGRpccbbbBcbBKWcBaCBjdBycESaiWmBsBEPgzczLafJCjiBXpwDtElBHQjBfbwicDAWggIWgmBGF",
    "aGJi"]),
  ("Numeric", [
    "EEGukBFBud"]),
  ("Grapheme_Extend", [
    "KDzpcmDOLacESabbdbbCZBobcbhcfb"])]

/-- The characters of version 17 with a property, given those of version 16. -/
def CharSet.withAdditions (s : CharSet) (property : String) : CharSet :=
  s.union (runsOf additionRuns property)

def alphabeticSet : CharSet :=
  (runsOf binaryPropertyRuns "Alphabetic").withAdditions "Alphabetic"

/-- Digits, letter-like numbers and other numbers. -/
def numericSet : CharSet :=
  (unionOf generalCategoryRuns ["Nd", "Nl", "No"]).withAdditions "Numeric"

def isAlphabetic (c : Char) : Bool :=
  alphabeticSet.contains c

def isAlphanumeric (c : Char) : Bool :=
  alphabeticSet.contains c || numericSet.contains c

end NodeSieve.Unicode
