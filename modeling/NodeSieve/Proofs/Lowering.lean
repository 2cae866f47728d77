import NodeSieve.Definition.Lower
import NodeSieve.Proofs.Members
import NodeSieve.Proofs.Reading

/-!
# Lowering, list by list

Lowering a definition goes through three kinds of lists: patterns, type names
and children. Each is collected in order and stops at the first failure, so
each succeeds exactly if every member does, member by member, and otherwise
fails with what its first failing member fails with. That is one lemma each,
`collect_eq_ok_iff` and `error?_collect`, and three readings of it.
-/

namespace NodeSieve.Definition

open NodeSieve.Unicode

/-- Members collected one by one, up to the first that fails. -/
theorem collect_eq_ok_iff {ε α β : Type} {f : α → Except ε β}
    {g : List α → Except ε (List β)} (hnil : g [] = .ok [])
    (hcons : ∀ a as, g (a :: as) = (f a).bind fun b => (g as).map (b :: ·))
    {as : List α} {bs : List β} :
    g as = .ok bs ↔ List.Forall₂ (fun a b => f a = .ok b) as bs := by
  induction as generalizing bs with
  | nil =>
      rw [hnil, List.forall₂_nil_left_iff]
      exact ⟨fun h => (Except.ok.inj h).symm, fun h => h ▸ rfl⟩
  | cons a as ih =>
      rw [hcons, List.forall₂_cons_left_iff]
      cases hb : f a with
      | error e =>
          refine ⟨nofun, ?_⟩
          intro h
          obtain ⟨b, rest, hb', -⟩ := h
          cases hb'
      | ok b =>
          constructor
          · intro h
            obtain ⟨rest, hrest, rfl⟩ := map_eq_ok_iff.mp h
            exact ⟨b, rest, rfl, ih.mp hrest, rfl⟩
          · intro h
            obtain ⟨b', rest, hb', hrest, rfl⟩ := h
            rw [Except.ok.inj hb']
            exact map_eq_ok_iff.mpr ⟨rest, ih.mpr hrest, rfl⟩

/-- The error of a computation that failed. -/
def error? {ε α : Type} : Except ε α → Option ε
  | .error e => some e
  | .ok _ => none

theorem error?_eq_some_iff {ε α : Type} {x : Except ε α} {e : ε} :
    error? x = some e ↔ x = .error e := by
  cases x with
  | error e' => rw [error?, Option.some.injEq, Except.error.injEq]
  | ok a => exact ⟨nofun, nofun⟩

theorem error?_map {ε α β : Type} (x : Except ε α) (f : α → β) : error? (x.map f) = error? x := by
  cases x <;> rfl

/-- What fails first in a list is what the list fails with. -/
theorem error?_collect {ε α β : Type} {f : α → Except ε β} {g : List α → Except ε (List β)}
    (hnil : g [] = .ok []) (hcons : ∀ a as, g (a :: as) = (f a).bind fun b => (g as).map (b :: ·))
    {as : List α} {fault? : α → Option ε} (hfault : ∀ a ∈ as, error? (f a) = fault? a) :
    error? (g as) = as.findSome? fault? := by
  induction as with
  | nil =>
      rw [hnil]
      rfl
  | cons a as ih =>
      obtain ⟨ha, has⟩ := List.forall_mem_cons.mp hfault
      rw [hcons, List.findSome?_cons, ← ha]
      cases f a with
      | error e => rfl
      | ok b =>
          rw [error?, ← ih has]
          exact error?_map _ _

theorem lowerPattern_eq_ok_iff {options : ParseOptions} {label : String}
    {source : List Char} {p : Pattern} :
    lowerPattern options label source = .ok p ↔
      Pattern.ofChars options.pattern source = .ok p := by
  rw [lowerPattern]
  cases Pattern.ofChars options.pattern source with
  | error e => exact ⟨nofun, nofun⟩
  | ok q => simp only [Except.ok.injEq]

theorem lowerPatterns_cons (options : ParseOptions) (label : String) (source : List Char)
    (sources : List (List Char)) :
    lowerPatterns options label (source :: sources) =
      (lowerPattern options label source).bind fun p =>
        (lowerPatterns options label sources).map (p :: ·) := by
  rw [lowerPatterns]
  cases lowerPattern options label source <;> rfl

theorem lowerPatterns_eq_ok_iff {options : ParseOptions} {label : String}
    {sources : List (List Char)} {ps : List Pattern} :
    lowerPatterns options label sources = .ok ps ↔
      List.Forall₂ (fun source p => Pattern.ofChars options.pattern source = .ok p)
        sources ps := by
  rw [collect_eq_ok_iff (g := lowerPatterns options label) rfl (lowerPatterns_cons options label)]
  simp only [lowerPattern_eq_ok_iff]

theorem lowerType_eq_ok_iff {options : ParseOptions} {sign : Sign} {literal : List Char}
    {leaf : Filter} :
    lowerType options sign literal = .ok leaf ↔
      ∃ p, Pattern.literal options.pattern (unescape literal) = .ok p ∧
        leaf = .leaf (options.typeRules.resolve (unescape literal)) sign [p] := by
  rw [lowerType]
  cases hp : Pattern.literal options.pattern (unescape literal) with
  | error e => exact ⟨nofun, nofun⟩
  | ok p =>
      constructor
      · intro h
        exact ⟨p, rfl, (Except.ok.inj h).symm⟩
      · intro h
        obtain ⟨q, hq, rfl⟩ := h
        rw [Except.ok.inj hq]

theorem lowerTypes_cons (options : ParseOptions) (sign : Sign) (literal : List Char)
    (literals : List (List Char)) :
    lowerTypes options sign (literal :: literals) =
      (lowerType options sign literal).bind fun leaf =>
        (lowerTypes options sign literals).map (leaf :: ·) := by
  rw [lowerTypes]
  cases lowerType options sign literal <;> rfl

theorem lowerTypes_eq_ok_iff {options : ParseOptions} {sign : Sign}
    {literals : List (List Char)} {leaves : List Filter} :
    lowerTypes options sign literals = .ok leaves ↔
      List.Forall₂ (fun literal leaf => lowerType options sign literal = .ok leaf)
        literals leaves :=
  collect_eq_ok_iff (g := lowerTypes options sign) rfl (lowerTypes_cons options sign)

/-- Whether tests for types can be compiled does not depend on their sign. -/
theorem exists_lowerTypes_iff {options : ParseOptions} {sign : Sign}
    {literals : List (List Char)} :
    (∃ leaves, lowerTypes options sign literals = .ok leaves) ↔
      ∀ literal ∈ literals,
        ∃ p, Pattern.literal options.pattern (unescape literal) = .ok p := by
  simp only [lowerTypes_eq_ok_iff, exists_forall₂_iff, lowerType_eq_ok_iff]
  refine forall₂_congr fun literal _ => ?_
  constructor
  · intro h
    obtain ⟨leaf, p, hp, -⟩ := h
    exact ⟨p, hp⟩
  · intro h
    obtain ⟨p, hp⟩ := h
    exact ⟨_, p, hp, rfl⟩

theorem lowerAll_cons (options : ParseOptions) (d : Definition) (ds : List Definition) :
    lowerAll options (d :: ds) =
      (lower options d).bind fun x => (lowerAll options ds).map (x :: ·) := by
  rw [lowerAll]
  cases lower options d <;> rfl

theorem lowerAll_eq_ok_iff {options : ParseOptions} {ds : List Definition}
    {xs : List Filter} :
    lowerAll options ds = .ok xs ↔
      List.Forall₂ (fun d x => lower options d = .ok x) ds xs :=
  collect_eq_ok_iff (g := lowerAll options) rfl (lowerAll_cons options)

theorem exists_lowered {options : ParseOptions} {ds : List Definition} {xs : List Filter}
    (h : lowerAll options ds = .ok xs) {d : Definition} (hd : d ∈ ds) :
    ∃ x ∈ xs, lower options d = .ok x :=
  exists_mem_of_forall₂ (lowerAll_eq_ok_iff.mp h) hd

theorem exists_lowering {options : ParseOptions} {ds : List Definition} {xs : List Filter}
    (h : lowerAll options ds = .ok xs) {x : Filter} (hx : x ∈ xs) :
    ∃ d ∈ ds, lower options d = .ok x :=
  exists_mem_of_forall₂ (lowerAll_eq_ok_iff.mp h).flip hx

/-! ## What can go wrong

Compiling goes over the tree list by list. What it reports is told by the row
of texts that the whole tree has to have compiled: the first that is refused. -/

/-- A text that the engine has to compile: a pattern of a test for a field, or
the name of a type as it is written. -/
inductive Entry where
  | pattern (f : Field) (text : List Char)
  | typeName (text : List Char)
deriving DecidableEq, Repr

namespace Entry

/-- The text as it stands in the definition. -/
def text : Entry → List Char
  | .pattern _ text => text
  | .typeName text => text

/-- The text as an error shows it. A type is shown without its escapes. -/
def shown : Entry → List Char
  | .pattern _ text => text
  | .typeName text => unescape text

/-- The predicate that the text is given to. -/
def owner : Entry → String
  | .pattern f _ => f.label
  | .typeName _ => "Type"

def compile (options : PatternOptions) : Entry → Except Regex.Error Pattern
  | .pattern _ text => Pattern.ofChars options text
  | .typeName text => Pattern.literal options (unescape text)

/-- The error for a text that is refused for a cause. -/
def fault (entry : Entry) (cause : Regex.Error) : FilterError :=
  .compile entry.owner (String.ofList entry.shown) cause.message

def fault? (options : PatternOptions) (entry : Entry) : Option FilterError :=
  (error? (entry.compile options)).map entry.fault

end Entry

mutual

/-- The texts to be compiled for a definition, from left to right. -/
def entries : Definition → List Entry
  | .folder => []
  | .all children => entriesAll children
  | .any children => entriesAll children
  | .field f _ patterns => patterns.map (.pattern f)
  | .type _ literals => literals.map .typeName

def entriesAll : List Definition → List Entry
  | [] => []
  | d :: ds => d.entries ++ entriesAll ds

end

theorem entriesAll_eq_flatMap (ds : List Definition) : entriesAll ds = ds.flatMap entries := by
  induction ds with
  | nil => rfl
  | cons d ds ih => rw [entriesAll, ih, List.flatMap_cons]

theorem error?_lowerPattern (options : ParseOptions) (f : Field) (source : List Char) :
    error? (lowerPattern options f.label source) =
      Entry.fault? options.pattern (.pattern f source) := by
  rw [lowerPattern, Entry.fault?, Entry.compile]
  cases Pattern.ofChars options.pattern source <;> rfl

theorem error?_lowerType (options : ParseOptions) (sign : Sign) (literal : List Char) :
    error? (lowerType options sign literal) =
      Entry.fault? options.pattern (.typeName literal) := by
  rw [lowerType, Entry.fault?, Entry.compile]
  cases Pattern.literal options.pattern (unescape literal) <;> rfl

/-- A definition fails with the first of its texts that is refused, however
deep it stands. -/
theorem error?_lower (options : ParseOptions) (d : Definition) :
    error? (d.lower options) = d.entries.findSome? (Entry.fault? options.pattern) := by
  have hall : ∀ ds : List Definition, (∀ d ∈ ds, error? (d.lower options) =
      d.entries.findSome? (Entry.fault? options.pattern)) →
      error? (lowerAll options ds) =
        (entriesAll ds).findSome? (Entry.fault? options.pattern) := by
    intro ds ih
    rw [entriesAll_eq_flatMap, findSome?_flatMap]
    exact error?_collect (g := lowerAll options) rfl (lowerAll_cons options) ih
  induction d using Definition.induction with
  | folder => rfl
  | all ds ih => rw [lower, error?_map, entries, hall ds ih]
  | any ds ih => rw [lower, error?_map, entries, hall ds ih]
  | field f sign sources =>
      rw [lower, error?_map, entries, List.findSome?_map]
      exact error?_collect (g := lowerPatterns options f.label) rfl
        (lowerPatterns_cons options f.label) fun source _ => error?_lowerPattern options f source
  | type sign literals =>
      rw [lower, error?_map, entries, List.findSome?_map]
      exact error?_collect (g := lowerTypes options sign) rfl (lowerTypes_cons options sign)
        fun literal _ => error?_lowerType options sign literal

/-- Lowering only ever complains of a pattern, so an error in the writing comes
from the reader. -/
theorem isCompile_of_lower {options : ParseOptions} {d : Definition} {e : FilterError}
    (h : d.lower options = .error e) : e.isCompile = true := by
  rw [← error?_eq_some_iff, error?_lower] at h
  obtain ⟨entry, -, hfault⟩ := List.exists_of_findSome?_eq_some h
  obtain ⟨cause, -, rfl⟩ := Option.map_eq_some_iff.mp hfault
  rfl

/-! ## The source of a pattern -/

theorem source_of_ofChars {options : PatternOptions} {source : List Char} {p : Pattern}
    (h : Pattern.ofChars options source = .ok p) : p.source.toList = source := by
  rw [Pattern.ofChars] at h
  obtain ⟨term, -, rfl⟩ := map_eq_ok_iff.mp h
  exact String.toList_ofList

/-- A type's name is looked for as it is written. -/
theorem resolve_generic {rules : TypeRules} {name : List Char} {tag : String}
    (h : rules.resolve name = .genericType tag) : name = tag.toList := by
  rw [TypeRules.resolve] at h
  split at h
  · cases h
  · cases h
  · rw [← Predicate.genericType.inj h, String.toList_ofList]

end NodeSieve.Definition
