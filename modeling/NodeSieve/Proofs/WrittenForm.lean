import Mathlib.Data.List.Nodup
import Mathlib.Data.List.Perm.Basic
import NodeSieve.Document.Codec
import NodeSieve.Proofs.FirstOccurrences
import NodeSieve.Proofs.Members

/-!
# What is written is read back

Resources, options and configurations are written with every field that they
have, under the names by which they are read. So the fields that a reader may
fill in by default never come into it, and reading only has to find each field
again. An object keeps its fields in an order of its own, which need not be
the one they were written in; that is why the statements are about every
document that is the written one up to the order of fields (`Rearranged`).

One field is not read as it stands: mixin types that are listed twice are
read once. A resource comes back all the same, because whatever it was made by
has kept its mixin types apart (`Resource.Built`).
-/

namespace NodeSieve.Document

/-- The same document, where the fields of an object may come in another
order. -/
inductive Rearranged : Json → Json → Prop
  | null : Rearranged .null .null
  | bool (b : Bool) : Rearranged (.bool b) (.bool b)
  | number (n : JsonNumber) : Rearranged (.number n) (.number n)
  | string (s : String) : Rearranged (.string s) (.string s)
  | unreadable : Rearranged .unreadable .unreadable
  | array {items items' : List Json} (h : List.Forall₂ Rearranged items items') :
      Rearranged (.array items) (.array items')
  | object {fields arranged fields' : List (String × Json)}
      (hnames : fields.map Prod.fst = arranged.map Prod.fst)
      (hvalues : List.Forall₂ Rearranged (fields.map Prod.snd) (arranged.map Prod.snd))
      (hperm : arranged.Perm fields') : Rearranged (.object fields) (.object fields')

mutual

theorem rearranged_self : (j : Json) → Rearranged j j
  | .null => .null
  | .bool b => .bool b
  | .number n => .number n
  | .string s => .string s
  | .unreadable => .unreadable
  | .array items => .array (rearranged_items items)
  | .object fields => .object rfl (rearranged_values fields) (List.Perm.refl fields)

theorem rearranged_items : (items : List Json) → List.Forall₂ Rearranged items items
  | [] => .nil
  | j :: items => .cons (rearranged_self j) (rearranged_items items)

theorem rearranged_values : (fields : List (String × Json)) →
    List.Forall₂ Rearranged (fields.map Prod.snd) (fields.map Prod.snd)
  | [] => .nil
  | (_, j) :: fields => .cons (rearranged_self j) (rearranged_values fields)

end

/-! ## Fields and items -/

theorem uniqueField?_of_mem {fields : List (String × Json)}
    (hnames : (fields.map Prod.fst).Nodup) {name : String} {j : Json}
    (hmem : (name, j) ∈ fields) : uniqueField? fields name = some (some j) := by
  have hvalues : fieldValues fields name = [j] := by
    induction fields with
    | nil => cases hmem
    | cons field fields ih =>
        rw [List.map_cons, List.nodup_cons] at hnames
        rw [fieldValues, List.filterMap_cons]
        rcases List.mem_cons.mp hmem with rfl | hrest
        · have hnone : fieldValues fields name = [] := by
            refine List.filterMap_eq_nil_iff.mpr fun other hother => if_neg ?_
            rw [beq_iff_eq]
            exact fun heq => hnames.1 (List.mem_map.mpr ⟨other, hother, heq⟩)
          rw [if_pos (beq_self_eq_true name)]
          exact congrArg (j :: ·) hnone
        · rw [if_neg, ← fieldValues, ih hnames.2 hrest]
          rw [beq_iff_eq]
          exact fun heq => hnames.1 (heq ▸ List.mem_map_of_mem hrest)
  rw [uniqueField?, hvalues]

/-- The fields of a record are found under their names, wherever they stand. -/
theorem record?_of_rearranged {fields : List (String × Json)} {j : Json} (names : List String)
    (hnames : fields.map Prod.fst = names) (hdistinct : names.Nodup)
    (h : Rearranged (.object fields) j) :
    ∃ values, List.Forall₂ Rearranged (fields.map Prod.snd) values ∧
      j.record? names = some (values.map some) := by
  cases h with
  | @object _ arranged fields' harranged hvalues hperm =>
      refine ⟨arranged.map Prod.snd, hvalues, mapM_eq_some_iff.mpr ?_⟩
      rw [← hnames, harranged] at hdistinct ⊢
      rw [List.map_map, List.forall₂_map_left_iff, List.forall₂_map_right_iff,
        List.forall₂_same]
      exact fun field hmem =>
        uniqueField?_of_mem ((hperm.map _).nodup hdistinct) (hperm.subset hmem)

/-- A value comes back from every document that it may be written as. -/
def ReadsBack {α : Type} (write : α → Json) (read : Json → Option α) (a : α) : Prop :=
  ∀ j, Rearranged (write a) j → read j = some a

theorem readsBack_bool (b : Bool) : ReadsBack .bool Json.bool? b := by
  intro j h
  cases h
  rfl

theorem readsBack_string (s : String) : ReadsBack .string Json.string? s := by
  intro j h
  cases h
  rfl

theorem readsBack_optional (s : Option String) :
    ReadsBack Json.ofOptional Json.optionalString? s := by
  intro j h
  cases s <;> cases h <;> rfl

theorem readsBack_uint64 (n : UInt64) : ReadsBack Json.ofUInt64 Json.uint64? n := by
  intro j h
  cases h
  exact (if_pos n.toNat_lt).trans (congrArg some n.ofNat_toNat)

/-- A list comes back, as all that it may have for members do. -/
theorem items_of_rearranged {α : Type} {write : α → Json} {read : Json → Option α}
    (hread : ∀ a, ReadsBack write read a) {as : List α} {j : Json}
    (h : Rearranged (.array (as.map write)) j) :
    ∃ items, j = .array items ∧ items.mapM read = some as := by
  cases h with
  | @array _ items h =>
      refine ⟨items, rfl, mapM_eq_some_iff.mpr ?_⟩
      rw [List.forall₂_map_left_iff] at h
      exact h.flip.imp fun item a h => hread a item h

theorem readsBack_strings (ss : List String) : ReadsBack Json.ofStrings Json.strings? ss := by
  intro j h
  obtain ⟨items, rfl, hitems⟩ := items_of_rearranged readsBack_string h
  exact hitems

/-! ## Options and configurations -/

theorem readsBack_patternOptions (o : PatternOptions) :
    ReadsBack ofPatternOptions patternOptions? o := by
  intro j h
  obtain ⟨values, hvalues, hrecord⟩ :=
    record?_of_rearranged ["case_insensitive", "size_limit"] rfl (by decide) h
  obtain _ | ⟨hcase, _ | ⟨hsize, ⟨⟩⟩⟩ := hvalues
  rw [patternOptions?, hrecord]
  simp only [List.map, orElse, Option.bind_eq_bind, Option.bind_some, readsBack_bool _ _ hcase,
    readsBack_uint64 _ _ hsize]
  rfl

theorem readsBack_target (target : TypeTarget) :
    ReadsBack (fun target => .string (targetName target)) target? target := by
  intro j h
  cases h
  cases target <;> rfl

theorem readsBack_typeRule (rule : TypeRule) : ReadsBack ofTypeRule typeRule? rule := by
  intro j h
  obtain ⟨values, hvalues, hrecord⟩ :=
    record?_of_rearranged ["prefix", "target"] rfl (by decide) h
  obtain _ | ⟨hstart, _ | ⟨htarget, ⟨⟩⟩⟩ := hvalues
  rw [typeRule?, hrecord]
  simp only [List.map, required, Option.bind_eq_bind, Option.bind_some,
    readsBack_string _ _ hstart, readsBack_target _ _ htarget]
  rfl

theorem readsBack_typeRules (rules : TypeRules) : ReadsBack ofTypeRules typeRules? rules := by
  intro j h
  obtain ⟨items, rfl, hitems⟩ := items_of_rearranged readsBack_typeRule h
  rw [typeRules?, hitems]
  rfl

theorem readsBack_parseOptions (o : ParseOptions) :
    ReadsBack ofParseOptions parseOptions? o := by
  intro j h
  obtain ⟨values, hvalues, hrecord⟩ :=
    record?_of_rearranged ["pattern", "type_resolution", "max_depth"] rfl (by decide) h
  obtain _ | ⟨hpattern, _ | ⟨hrules, _ | ⟨hdepth, ⟨⟩⟩⟩⟩ := hvalues
  rw [parseOptions?, hrecord]
  simp only [List.map, orElse, Option.bind_eq_bind, Option.bind_some,
    readsBack_patternOptions _ _ hpattern, readsBack_typeRules _ _ hrules,
    readsBack_uint64 _ _ hdepth]
  rfl

theorem readsBack_config (c : FilterConfig) : ReadsBack ofConfig config? c := by
  intro j h
  obtain ⟨values, hvalues, hrecord⟩ := record?_of_rearranged configNames rfl (by decide) h
  obtain _ | ⟨hpage, _ | ⟨hdefault, _ | ⟨htree, _ | ⟨hreferenceable, _ | ⟨horderable, _ |
    ⟨hlimit, _ | ⟨hpattern, _ | ⟨hrules, ⟨⟩⟩⟩⟩⟩⟩⟩⟩⟩ := hvalues
  rw [config?, hrecord]
  simp only [List.map, orElse, Option.bind_eq_bind, Option.bind_some,
    readsBack_string _ _ hpage, readsBack_string _ _ hdefault, readsBack_string _ _ htree,
    readsBack_string _ _ hreferenceable, readsBack_string _ _ horderable,
    readsBack_uint64 _ _ hlimit, readsBack_patternOptions _ _ hpattern,
    readsBack_typeRules _ _ hrules]
  rfl

/-! ## Resources -/

/-- Mixin types are read without their repetitions. -/
theorem mixinTypes?_of_rearranged {mixinTypes : List String} {j : Json}
    (h : Rearranged (.ofStrings mixinTypes) j) :
    mixinTypes? j = some (eraseRepeats 0 mixinTypes) := by
  rw [mixinTypes?, readsBack_strings _ _ h, Option.map_some]

theorem resource?_of_rearranged {r : Resource} {j : Json} (h : Rearranged (ofResource r) j) :
    resource? j = some { r with mixinTypes := eraseRepeats 0 r.mixinTypes } := by
  obtain ⟨values, hvalues, hrecord⟩ :=
    record?_of_rearranged ["path", "name", "primaryType", "mixinTypes", "resourceType",
      "mimeType", "isFolder"] rfl (by decide) h
  obtain _ | ⟨hpath, _ | ⟨hname, _ | ⟨hprimary, _ | ⟨hmixins, _ | ⟨hresource, _ | ⟨hmime, _ |
    ⟨hfolder, ⟨⟩⟩⟩⟩⟩⟩⟩⟩ := hvalues
  rw [resource?, hrecord]
  simp only [List.map, orElse, required, Option.bind_eq_bind, Option.bind_some,
    readsBack_string _ _ hpath, readsBack_string _ _ hname, readsBack_string _ _ hprimary,
    mixinTypes?_of_rearranged hmixins, readsBack_optional _ _ hresource,
    readsBack_optional _ _ hmime, readsBack_bool _ _ hfolder]
  rfl

/-- A resource with distinct mixin types comes back. -/
theorem readsBack_resource {r : Resource} (h : r.mixinTypes.Nodup) :
    ReadsBack ofResource resource? r := by
  intro j hj
  rw [resource?_of_rearranged hj, eraseRepeats_of_nodup h]

/-- Where a resource that was read has its mixin types from. -/
theorem exists_record?_of_resource? {j : Json} {r : Resource} (h : resource? j = some r) :
    ∃ path name primaryType mixinTypes resourceType mimeType isFolder,
      j.record? ["path", "name", "primaryType", "mixinTypes", "resourceType", "mimeType",
        "isFolder"] =
        some [path, name, primaryType, mixinTypes, resourceType, mimeType, isFolder] ∧
      orElse [] mixinTypes? mixinTypes = some r.mixinTypes := by
  rw [resource?] at h
  simp only [Option.bind_eq_bind, Option.bind_eq_some_iff] at h
  obtain ⟨fields, hfields, h⟩ := h
  split at h
  · simp only [Option.bind_eq_some_iff, Option.pure_def, Option.some.injEq] at h
    obtain ⟨_, -, _, -, _, -, mixinTypes, hmixins, _, -, _, -, _, -, rfl⟩ := h
    exact ⟨_, _, _, _, _, _, _, hfields, hmixins⟩
  · cases h

theorem nodup_of_mixinTypes? {j : Json} {mixinTypes : List String}
    (h : mixinTypes? j = some mixinTypes) : mixinTypes.Nodup := by
  obtain ⟨listed, -, rfl⟩ := Option.map_eq_some_iff.mp h
  exact (firstOccurrences_eraseRepeats listed).nodup

theorem nodup_of_resource? {j : Json} {r : Resource} (h : resource? j = some r) :
    r.mixinTypes.Nodup := by
  obtain ⟨_, _, _, mixinTypes, _, _, _, -, hmixins⟩ := exists_record?_of_resource? h
  cases mixinTypes with
  | none =>
      rw [← Option.some.inj hmixins]
      exact List.nodup_nil
  | some j => exact nodup_of_mixinTypes? hmixins

theorem readsBack_resource_iff {r : Resource} :
    ReadsBack ofResource resource? r ↔ r.mixinTypes.Nodup :=
  ⟨fun h => nodup_of_resource? (h _ (rearranged_self _)), readsBack_resource⟩

end NodeSieve.Document

namespace NodeSieve

open NodeSieve.Document

/-- A resource as it can come about: by its path or read from a document, and
from there on field by field. -/
inductive Resource.Built : Resource → Prop
  | ofPath (path : String) : Built (.ofPath path)
  | read {j : Json} {r : Resource} (h : resource? j = some r) : Built r
  | withName {r : Resource} (h : Built r) (name : String) : Built (r.withName name)
  | withPrimaryType {r : Resource} (h : Built r) (primaryType : String) :
      Built (r.withPrimaryType primaryType)
  | withMixinType {r : Resource} (h : Built r) (mixinType : String) :
      Built (r.withMixinType mixinType)
  | withMixinTypes {r : Resource} (h : Built r) (mixinTypes : List String) :
      Built (r.withMixinTypes mixinTypes)
  | withResourceType {r : Resource} (h : Built r) (resourceType : String) :
      Built (r.withResourceType resourceType)
  | withMimeType {r : Resource} (h : Built r) (mimeType : String) :
      Built (r.withMimeType mimeType)
  | withFolder {r : Resource} (h : Built r) (isFolder : Bool) : Built (r.withFolder isFolder)

namespace Resource

theorem nodup_withMixinType {r : Resource} (h : r.mixinTypes.Nodup) (mixinType : String) :
    (r.withMixinType mixinType).mixinTypes.Nodup :=
  ((FirstOccurrences.of_nodup h).withMixinType mixinType).nodup

theorem nodup_withMixinTypes {r : Resource} (h : r.mixinTypes.Nodup)
    (mixinTypes : List String) : (r.withMixinTypes mixinTypes).mixinTypes.Nodup :=
  ((FirstOccurrences.of_nodup h).withMixinTypes mixinTypes).nodup

theorem Built.nodup {r : Resource} (h : r.Built) : r.mixinTypes.Nodup := by
  induction h with
  | ofPath path => exact List.nodup_nil
  | read h => exact nodup_of_resource? h
  | withMixinType _ mixinType ih => exact nodup_withMixinType ih mixinType
  | withMixinTypes _ mixinTypes ih => exact nodup_withMixinTypes ih mixinTypes
  | withName _ _ ih | withPrimaryType _ _ ih | withResourceType _ _ ih | withMimeType _ _ ih
  | withFolder _ _ ih => exact ih

end Resource

/-- Whatever is written comes back as it was: every resource that can come
about, all options and all configurations. -/
theorem written_reads_back :
    (∀ r : Resource, r.Built → ReadsBack ofResource resource? r) ∧
      (∀ o : ParseOptions, ReadsBack ofParseOptions parseOptions? o) ∧
      ∀ c : FilterConfig, ReadsBack ofConfig config? c :=
  ⟨fun _ h => readsBack_resource_iff.mpr h.nodup, readsBack_parseOptions, readsBack_config⟩

/-- A mixin type that is added twice is written once, and a text that is there
but empty is told from one that is not. -/
theorem written_reads_back_of_empty_text :
    ∃ r : Resource, r.Built ∧ r.mixinTypes = ["mix:a", "mix:b"] ∧ r.resourceType = none ∧
      r.mimeType = some "" ∧ resource? (ofResource r) = some r := by
  have hbuilt :=
    ((Resource.Built.ofPath "/a/b").withMixinTypes ["mix:a", "mix:b", "mix:a"]).withMimeType ""
  exact ⟨_, hbuilt, by decide, rfl, rfl,
    written_reads_back.1 _ hbuilt _ (rearranged_self _)⟩

end NodeSieve
