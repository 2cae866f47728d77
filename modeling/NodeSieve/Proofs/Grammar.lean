import NodeSieve.Definition.Reader
import NodeSieve.Proofs.Blanks

/-!
# The grammar of definitions

What a definition looks like, said without a reader: which texts spell which
tree. Blanks may stand in every gap between two words. Lists of filters and
lists of arguments are put together in one way, so there is one relation
`Separated` for both.

Nesting is no part of the grammar. A tree knows how deep its combinators go
(`Definition.nesting`), and a reader with a limit accepts the texts whose
trees stay within it.
-/

namespace NodeSieve.Definition

open NodeSieve.Unicode

/-- One or more items with commas between them. Blanks may stand around each
item. -/
inductive Separated {α : Type} (item : List Char → α → Prop) :
    List Char → List α → Prop
  | one {u text v : List Char} {a : α} (hu : AllBlank u) (h : item text a)
      (hv : AllBlank v) : Separated item (u ++ text ++ v) [a]
  | more {u text v rest : List Char} {a : α} {as : List α} (hu : AllBlank u)
      (h : item text a) (hv : AllBlank v) (hrest : Separated item rest as) :
      Separated item (u ++ text ++ v ++ ',' :: rest) (a :: as)

/-- What can stand between the quotes of a group: a quote or a backslash only
behind a backslash of its own. -/
inductive QuotedContent : List Char → Prop
  | nil : QuotedContent []
  | plain {c : Char} {cs : List Char} (hquote : c ≠ '\'') (hslash : c ≠ '\\')
      (h : QuotedContent cs) : QuotedContent (c :: cs)
  | escape {c : Char} {cs : List Char} (h : QuotedContent cs) :
      QuotedContent ('\\' :: c :: cs)

/-- One argument and the texts that it adds: a quoted group gives its patterns
without the blanks around them, none of which may be empty; a bare type name,
where one is allowed, gives itself. -/
inductive Argument (allowBare : Bool) : List Char → List (List Char) → Prop
  | quoted {content : List Char} (h : QuotedContent content)
      (hpatterns : [] ∉ (splitPatterns content).map trimBlanks) :
      Argument allowBare ('\'' :: content ++ ['\''])
        ((splitPatterns content).map trimBlanks)
  | bare {name : List Char} (hallow : allowBare = true) (hne : name ≠ [])
      (h : ∀ c ∈ name, isBare c = true) : Argument allowBare name [name]

/-- A sign and the arguments behind it. A sign character that comes first is
the sign; without one the sign is `+`. -/
inductive Signed (allowBare : Bool) : List Char → Sign → List (List Char) → Prop
  | written {u body : List Char} {args : List (List (List Char))} (sign : Sign)
      (hu : AllBlank u) (h : Separated (Argument allowBare) body args) :
      Signed allowBare (u ++ sign.symbol :: body) sign args.flatten
  | omitted {body : List Char} {args : List (List (List Char))}
      (hfirst : ∀ c ∈ (dropBlanks body).head?, Sign.ofSymbol? c = none)
      (h : Separated (Argument allowBare) body args) :
      Signed allowBare body .include args.flatten

/-- The texts of a definition and the tree that each spells. -/
inductive Spells : List Char → Definition → Prop
  | all {w body : List Char} {ds : List Definition} (hw : AllBlank w)
      (h : Separated Spells body ds) :
      Spells (['a', 'n', 'd'] ++ w ++ '\x7b' :: body ++ ['\x7d']) (.all ds)
  | any {w body : List Char} {ds : List Definition} (hw : AllBlank w)
      (h : Separated Spells body ds) :
      Spells (['o', 'r'] ++ w ++ '\x7b' :: body ++ ['\x7d']) (.any ds)
  | field {w text : List Char} {sign : Sign} {patterns : List (List Char)}
      (f : Field) (hw : AllBlank w) (h : Signed false text sign patterns) :
      Spells (f.label.toList ++ w ++ '(' :: text ++ [')']) (.field f sign patterns)
  | type {w text : List Char} {sign : Sign} {literals : List (List Char)}
      (hw : AllBlank w) (h : Signed true text sign literals) :
      Spells (['T', 'y', 'p', 'e'] ++ w ++ '(' :: text ++ [')']) (.type sign literals)
  | folder {w v : List Char} (hw : AllBlank w) (hv : AllBlank v) :
      Spells (['F', 'o', 'l', 'd', 'e', 'r'] ++ w ++ '(' :: v ++ [')']) .folder

/-- The words of the combinators, and what each makes of its children. -/
inductive Combines : List Char → (List Definition → Definition) → Prop
  | all : Combines ['a', 'n', 'd'] .all
  | any : Combines ['o', 'r'] .any

section

variable {word : List Char} {combine : List Definition → Definition}

theorem Combines.spells (h : Combines word combine) {w body : List Char} {ds : List Definition}
    (hw : AllBlank w) (hbody : Separated Spells body ds) :
    Spells (word ++ w ++ '\x7b' :: body ++ ['\x7d']) (combine ds) := by
  cases h with
  | all => exact .all hw hbody
  | any => exact .any hw hbody

theorem Combines.nesting_eq (h : Combines word combine) (ds : List Definition) :
    (combine ds).nesting = maxNesting ds + 1 := by
  cases h <;> rfl

theorem Combines.all_isNameChar (h : Combines word combine) : word.all isNameChar = true := by
  cases h <;> decide

end

/-- A whole text that spells a definition, with blanks around it. -/
inductive SpelledBy (d : Definition) : List Char → Prop
  | intro {u text v : List Char} (hu : AllBlank u) (h : Spells text d)
      (hv : AllBlank v) : SpelledBy d (u ++ text ++ v)

end NodeSieve.Definition
