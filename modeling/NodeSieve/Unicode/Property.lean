import NodeSieve.Unicode.Age
import NodeSieve.Unicode.BinaryProperty
import NodeSieve.Unicode.GeneralCategory
import NodeSieve.Unicode.PropertyName
import NodeSieve.Unicode.Script
import NodeSieve.Unicode.Segmentation

/-!
# Looking up a Unicode property

A pattern asks for a property by one name, as in `Greek` or `Lu`, or for one
value of a property, as in `Script=Greek`. One name is looked up among the
binary properties first, then among the general categories, then among the
scripts. Three short names are both the name of a property that takes a value
and the name of a category; they mean the category.
-/

namespace NodeSieve.Unicode

/-- What a pattern asks for. -/
inductive PropertyQuery where
  | named (name : String)
  | valued (property value : String)
deriving DecidableEq, Repr

/-- Why there is no answer. -/
inductive PropertyError where
  | unknownProperty
  | unknownValue
deriving DecidableEq, Repr

def unionOf (table : List (String × List String)) (keys : List String) : CharSet :=
  (keys.map (runsOf table)).foldl CharSet.union .empty

/-- The general categories that make up a group of categories. -/
def categoriesOf (key : String) : List String :=
  match key with
  | "L" => ["Lu", "Ll", "Lt", "Lm", "Lo"]
  | "LC" => ["Lu", "Ll", "Lt"]
  | "M" => ["Mn", "Mc", "Me"]
  | "N" => ["Nd", "Nl", "No"]
  | "P" => ["Pc", "Pd", "Ps", "Pe", "Pi", "Pf", "Po"]
  | "S" => ["Sm", "Sc", "Sk", "So"]
  | "Z" => ["Zs", "Zl", "Zp"]
  | key => [key]

/-- The surrogate code points, which no character has. -/
def surrogatePoints : CharSet := ⟨[⟨0xD800, 0xDFFF⟩]⟩

/-- The characters of no other general category. -/
def unassigned : CharSet :=
  ((generalCategoryRuns.map fun row => CharSet.ofRuns row.2).foldl CharSet.union
    surrogatePoints).compl

/-- A general category or group of categories, under its short name. Surrogates
are no characters, so there is no set of them. -/
def generalCategory (key : String) : Except PropertyError CharSet :=
  match key with
  | "Cs" => .error .unknownValue
  | "Cn" => .ok unassigned
  | "C" => .ok ((unionOf generalCategoryRuns ["Cc", "Cf", "Co"]).union unassigned)
  | key => .ok (unionOf generalCategoryRuns (categoriesOf key))

/-- A general category, or one of the three sets that are named beside them, by
a loose name. -/
def generalCategoryNamed? (loose : String) : Option (Except PropertyError CharSet) :=
  match loose with
  | "any" => some (.ok .full)
  | "assigned" => some (.ok unassigned.compl)
  | "ascii" => some (.ok ⟨[⟨0, 0x7F⟩]⟩)
  | loose => (keyOf? generalCategoryNames loose).map generalCategory

def script (key : String) : Except PropertyError CharSet :=
  match runsOf? scriptRuns key with
  | some s => .ok s
  | none => .error .unknownValue

/-- A script with its extensions: the script alone, unless a second row says
otherwise. -/
def scriptExtensions (key : String) : Except PropertyError CharSet :=
  match runsOf? scriptExtensionRuns key with
  | some s => .ok s
  | none => script key

/-- The characters that a version of the standard and the versions before it
assigned. -/
def assignedBy (version : String) : Except PropertyError CharSet :=
  if (ageRuns.lookup version).isNone then .error .unknownValue
  else
    let newer := (ageRuns.dropWhile fun row => row.1 != version).drop 1
    let rows := ageRuns.take (ageRuns.length - newer.length)
    .ok ((rows.map fun row => CharSet.ofRuns row.2).foldl CharSet.union .empty)

/-- The loose names that mean a category although a property bears them too. -/
def categoryFirst (loose : String) : Bool :=
  loose == "cf" || loose == "sc" || loose == "lc"

def isPropertyName (loose : String) : Bool :=
  (keyOf? valuedPropertyNames loose).isSome || (keyOf? otherPropertyNames loose).isSome

/-- What one name stands for. -/
def propertyNamed (name : String) : Except PropertyError CharSet :=
  let loose := looseName name
  let binary := if categoryFirst loose then none else keyOf? binaryPropertyNames loose
  match binary with
  | some key => .ok (runsOf binaryPropertyRuns key)
  | none =>
    if !categoryFirst loose && isPropertyName loose then .error .unknownProperty
    else
      match generalCategoryNamed? loose with
      | some answer => answer
      | none =>
        match keyOf? scriptNames loose with
        | some key => script key
        | none => .error .unknownProperty

/-- The characters in the class of a segmentation property with a given loose
name. -/
def segmentationClass (names runs : List (String × List String)) (loose : String) :
    Except PropertyError CharSet :=
  match (keyOf? names loose).bind (runsOf? runs) with
  | some s => .ok s
  | none => .error .unknownValue

/-- What a value of a property stands for. -/
def propertyValue (property value : String) : Except PropertyError CharSet :=
  let looseProperty := looseName property
  let loose := looseName value
  match keyOf? valuedPropertyNames looseProperty with
  | some "General_Category" => (generalCategoryNamed? loose).getD (.error .unknownValue)
  | some "Script" => ((keyOf? scriptNames loose).map script).getD (.error .unknownValue)
  | some "Script_Extensions" =>
    ((keyOf? scriptNames loose).map scriptExtensions).getD (.error .unknownValue)
  | some "Age" => ((keyOf? ageNames loose).map assignedBy).getD (.error .unknownValue)
  | some "Grapheme_Cluster_Break" =>
    segmentationClass graphemeBreakNames graphemeBreakRuns loose
  | some "Word_Break" => segmentationClass wordBreakNames wordBreakRuns loose
  | some "Sentence_Break" => segmentationClass sentenceBreakNames sentenceBreakRuns loose
  | _ =>
    if (keyOf? binaryPropertyNames looseProperty).isSome || isPropertyName looseProperty then
      .error .unknownValue
    else .error .unknownProperty

/-- The characters that a query asks for. -/
def PropertyQuery.resolve : PropertyQuery → Except PropertyError CharSet
  | .named name => propertyNamed name
  | .valued property value => propertyValue property value

/-! ### The classes that have letters of their own -/

/-- Decimal digits of every script. -/
def digitSet : CharSet :=
  runsOf generalCategoryRuns "Nd"

/-- The blanks, as a set; see `isBlank`. -/
def blankSet : CharSet :=
  runsOf binaryPropertyRuns "White_Space"

/-- What words are made of: letters and what is used like them, marks, digits,
connecting punctuation and the two joiners. -/
def wordSet : CharSet :=
  [unionOf generalCategoryRuns ["Mn", "Mc", "Me", "Nd", "Pc"],
    runsOf binaryPropertyRuns "Join_Control"].foldl CharSet.union
    (runsOf binaryPropertyRuns "Alphabetic")

def isWordChar (c : Char) : Bool :=
  wordSet.contains c

end NodeSieve.Unicode
