import NodeSieve.Proofs.WrittenForm

/-!
# Mixin types form a set

A resource can come by its mixin types in two ways, from a document that lists
them or by being told of them, all at once or one by one. Whatever is given,
and however often it is repeated, the resource holds its first occurrences, so
the ways cannot be told apart afterwards.

The list in a document is under the name of the field or, where the document
is an array, in the place of the field; what else the document holds is of no
concern (`mixinTypes_of_lists`). What a resource is told after that goes
behind what it has, again without repetitions (`FirstOccurrences.withDetails`).
So telling it of types that it has changes nothing, and telling it anything
else leaves its types alone.
-/

namespace NodeSieve

namespace Document

/-! ## Read from a document -/

/-- A document lists the mixin types of a resource, under the name of the
field or in its place. -/
inductive ListsMixinTypes (xs : List String) : Json → Prop
  | object {fields : List (String × Json)} (h : ("mixinTypes", Json.ofStrings xs) ∈ fields) :
      ListsMixinTypes xs (.object fields)
  | array {items : List Json} (h : items[3]? = some (Json.ofStrings xs)) :
      ListsMixinTypes xs (.array items)

theorem uniqueField?_eq_some_of_mem {fields : List (String × Json)} {name : String} {j : Json}
    {value : Option Json} (hmem : (name, j) ∈ fields)
    (h : uniqueField? fields name = some value) : value = some j := by
  have hvalue : j ∈ fieldValues fields name :=
    List.mem_filterMap.mpr ⟨(name, j), hmem, if_pos (beq_self_eq_true name)⟩
  rw [uniqueField?] at h
  split at h
  · next hnone =>
      rw [hnone] at hvalue
      cases hvalue
  · next hone =>
      rw [hone, List.mem_singleton] at hvalue
      rw [← Option.some.inj h, hvalue]
  · cases h

theorem ListsMixinTypes.eq_of_record? {xs : List String} {j : Json} (h : ListsMixinTypes xs j)
    {path name primaryType mixinTypes resourceType mimeType isFolder : Option Json}
    (hrecord : j.record? ["path", "name", "primaryType", "mixinTypes", "resourceType",
      "mimeType", "isFolder"] =
      some [path, name, primaryType, mixinTypes, resourceType, mimeType, isFolder]) :
    mixinTypes = some (Json.ofStrings xs) := by
  cases h with
  | object hmem =>
      obtain _ | ⟨-, _ | ⟨-, _ | ⟨-, _ | ⟨hmixins, -⟩⟩⟩⟩ := mapM_eq_some_iff.mp hrecord
      exact uniqueField?_eq_some_of_mem hmem hmixins
  | @array items hitem =>
      rw [Json.record?] at hrecord
      split at hrecord
      · obtain ⟨hlength, -⟩ := List.getElem?_eq_some_iff.mp hitem
        have hplace : (items.map some ++ _)[3]? = some mixinTypes :=
          congrArg (·[3]?) (Option.some.inj hrecord)
        rw [List.getElem?_append_left (by rwa [List.length_map]), List.getElem?_map,
          hitem] at hplace
        exact (Option.some.inj hplace).symm
      · cases hrecord

/-- Of the types that a document lists, the first occurrences are read. -/
theorem mixinTypes_of_lists {xs : List String} {j : Json} {r : Resource}
    (h : ListsMixinTypes xs j) (hread : resource? j = some r) :
    r.mixinTypes = eraseRepeats 0 xs := by
  obtain ⟨_, _, _, mixinTypes, _, _, _, hrecord, hmixins⟩ := exists_record?_of_resource? hread
  obtain rfl := h.eq_of_record? hrecord
  rw [orElse, mixinTypes?_of_rearranged (rearranged_self _)] at hmixins
  exact (Option.some.inj hmixins).symm

end Document

/-! ## Told one by one -/

namespace Resource

/-- What a resource can be told of itself. -/
inductive Detail where
  | name (text : String)
  | primaryType (text : String)
  | mixinType (text : String)
  | mixinTypes (texts : List String)
  | resourceType (text : String)
  | mimeType (text : String)
  | folder (isFolder : Bool)

/-- The mixin types that a detail is about. -/
def Detail.types : Detail → List String
  | .mixinType text => [text]
  | .mixinTypes texts => texts
  | .name _ | .primaryType _ | .resourceType _ | .mimeType _ | .folder _ => []

def withDetail (r : Resource) : Detail → Resource
  | .name text => r.withName text
  | .primaryType text => r.withPrimaryType text
  | .mixinType text => r.withMixinType text
  | .mixinTypes texts => r.withMixinTypes texts
  | .resourceType text => r.withResourceType text
  | .mimeType text => r.withMimeType text
  | .folder isFolder => r.withFolder isFolder

def withDetails (r : Resource) (details : List Detail) : Resource :=
  details.foldl withDetail r

section

variable {r : Resource} {xs : List String}

theorem withMixinType_of_mem {text : String} (h : text ∈ r.mixinTypes) :
    r.withMixinType text = r :=
  if_pos h

theorem withMixinTypes_of_subset {texts : List String} (h : texts ⊆ r.mixinTypes) :
    r.withMixinTypes texts = r := by
  rw [withMixinTypes]
  induction texts with
  | nil => rfl
  | cons text texts ih =>
      obtain ⟨hmem, hrest⟩ := List.cons_subset.mp h
      rw [List.foldl_cons, withMixinType_of_mem hmem, ih hrest]

/-- Nothing is known of mixin types that was not known before. -/
theorem mixinTypes_withDetail_of_subset {detail : Detail} (h : detail.types ⊆ r.mixinTypes) :
    (r.withDetail detail).mixinTypes = r.mixinTypes := by
  cases detail with
  | mixinType text => exact congrArg _ (withMixinType_of_mem (h (List.mem_singleton_self text)))
  | mixinTypes texts => exact congrArg _ (withMixinTypes_of_subset h)
  | name | primaryType | resourceType | mimeType | folder => rfl

end

end Resource

namespace FirstOccurrences

open Resource

variable {xs : List String} {r : Resource}

theorem withDetail (h : FirstOccurrences xs r.mixinTypes) (detail : Detail) :
    FirstOccurrences (xs ++ detail.types) (r.withDetail detail).mixinTypes := by
  cases detail with
  | mixinType text => exact h.withMixinType text
  | mixinTypes texts => exact h.withMixinTypes texts
  | name | primaryType | resourceType | mimeType | folder =>
      rw [Detail.types, List.append_nil]
      exact h

theorem withDetails (h : FirstOccurrences xs r.mixinTypes) (details : List Detail) :
    FirstOccurrences (xs ++ details.flatMap Detail.types) (r.withDetails details).mixinTypes := by
  rw [Resource.withDetails]
  induction details generalizing xs r with
  | nil =>
      rw [List.flatMap_nil, List.append_nil]
      exact h
  | cons detail details ih =>
      rw [List.flatMap_cons, ← List.append_assoc]
      exact ih (h.withDetail detail)

end FirstOccurrences

namespace Resource

open Document

/-- However a resource comes by its mixin types, it has the first occurrences
of what it was given: read from a document, told all at once or one by one. It
keeps them apart whatever it is told, and only types that it does not have
make a difference. -/
theorem mixinTypes_form_a_set :
    (∀ xs : List String, ∃ ys, FirstOccurrences xs ys ∧
      mixinTypes? (Json.ofStrings xs) = some ys ∧
      (∀ j r, ListsMixinTypes xs j → resource? j = some r → r.mixinTypes = ys) ∧
      (∀ r : Resource, resource? (ofResource { r with mixinTypes := xs }) =
        some { r with mixinTypes := ys }) ∧
      ∀ r : Resource, r.mixinTypes = [] →
        (r.withMixinTypes xs).mixinTypes = ys ∧
          (r.withDetails (xs.map .mixinType)).mixinTypes = ys) ∧
      (∀ r : Resource, r.Built → ∀ details : List Detail,
        FirstOccurrences (r.mixinTypes ++ details.flatMap Detail.types)
          (r.withDetails details).mixinTypes) ∧
      (∀ (r : Resource) (text : String), text ∈ r.mixinTypes → r.withMixinType text = r) ∧
      (∀ (r : Resource) (texts : List String), texts ⊆ r.mixinTypes →
        r.withMixinTypes texts = r) ∧
      ∀ (r : Resource) (detail : Detail), detail.types = [] →
        (r.withDetail detail).mixinTypes = r.mixinTypes := by
  refine ⟨fun xs => ?_, ?_, ?_, ?_, ?_⟩
  · have hread := firstOccurrences_eraseRepeats xs
    refine ⟨eraseRepeats 0 xs, hread, mixinTypes?_of_rearranged (rearranged_self _), ?_, ?_, ?_⟩
    · exact fun j r => mixinTypes_of_lists
    · exact fun r => resource?_of_rearranged (rearranged_self _)
    · intro r hnone
      have hempty : FirstOccurrences [] r.mixinTypes := hnone ▸ .nil
      have hsingly := hempty.withDetails (xs.map .mixinType)
      rw [List.flatMap_map, show xs.flatMap (fun text => (Detail.mixinType text).types) = xs from
        List.flatMap_singleton' xs] at hsingly
      exact ⟨(hempty.withMixinTypes xs).unique hread, hsingly.unique hread⟩
  · exact fun r hbuilt details => (FirstOccurrences.of_nodup hbuilt.nodup).withDetails details
  · exact fun r text => withMixinType_of_mem
  · exact fun r texts => withMixinTypes_of_subset
  · intro r detail hnone
    refine mixinTypes_withDetail_of_subset ?_
    rw [hnone]
    exact List.nil_subset _

/-- A document with a field that is not known, in which two types are listed
twice; and a resource read from it that is told of a type it has and of a new
one. -/
theorem mixinTypes_form_a_set_of_repeated :
    let xs := ["b", "a", "b", "c", "a"]
    let j := Json.object [("size", .null), ("mixinTypes", .ofStrings xs), ("name", .string "n"),
      ("path", .string "/n")]
    ∃ r : Resource, ListsMixinTypes xs j ∧ resource? j = some r ∧ r.Built ∧
      r.mixinTypes = ["b", "a", "c"] ∧ (ofPath "/n").mixinTypes = [] ∧
      ((ofPath "/n").withMixinTypes xs).mixinTypes = ["b", "a", "c"] ∧
      "c" ∈ r.mixinTypes ∧ r.withMixinType "c" = r ∧
      ["c", "b"] ⊆ r.mixinTypes ∧ r.withMixinTypes ["c", "b"] = r ∧
      Detail.types (.folder true) = [] ∧ (r.withDetail (.folder true)).mixinTypes = r.mixinTypes ∧
      FirstOccurrences ["b", "a", "c", "d", "b"]
        (r.withDetails [.mixinTypes ["d", "b"], .name "m"]).mixinTypes := by
  intro xs j
  obtain ⟨hgiven, hkept, hpresent, hsubset, hother⟩ := mixinTypes_form_a_set
  obtain ⟨ys, -, -, hlists, -, htold⟩ := hgiven xs
  have hlisted : ListsMixinTypes xs j := .object (List.mem_cons_of_mem _ (List.mem_cons_self ..))
  obtain ⟨r, hr⟩ : ∃ r, resource? j = some r := ⟨_, rfl⟩
  obtain ⟨htypes, -⟩ := htold (ofPath "/n") rfl
  have hys : ys = ["b", "a", "c"] := htypes.symm.trans (by decide)
  rw [hys] at hlists htypes
  have hmixins := hlists j r hlisted hr
  have hdetails := hkept r (.read hr) [.mixinTypes ["d", "b"], .name "m"]
  rw [hmixins] at hdetails
  have hc : "c" ∈ r.mixinTypes := hmixins ▸ by decide
  have hcb : ["c", "b"] ⊆ r.mixinTypes := hmixins ▸ by decide
  exact ⟨r, hlisted, hr, .read hr, hmixins, rfl, htypes, hc, hpresent r _ hc, hcb,
    hsubset r _ hcb, rfl, hother r _ rfl, hdetails⟩

end Resource

end NodeSieve
