import NodeSieve.Unicode.Property

/-!
# What names of properties are made of

The text inside the braces of a property class is free as far as reading goes:
any characters up to the closing brace. Only when the class is looked up does
a name turn out to be none. No property and no value has a name with one of
the characters in it that hold a pattern together, and comparing names loosely
neither drops such a character nor makes one, so a class that is found was
asked for without them.
-/

namespace NodeSieve.Unicode

/-- The characters that hold a pattern together or take it apart: the
backslash, the comma and the brackets. -/
def isMark (c : Char) : Bool :=
  c ∈ ['\\', ',', '(', ')', '[', ']', '\x7b', '\x7d']

/-- A text without marks. -/
def Unmarked (cs : List Char) : Prop :=
  ∀ c ∈ cs, isMark c = false

theorem eq_of_isMark {c : Char} (h : isMark c = true) :
    c = '\\' ∨ c = ',' ∨ c = '(' ∨ c = ')' ∨ c = '[' ∨ c = ']' ∨ c = '\x7b' ∨
      c = '\x7d' := by
  simpa [isMark] using h

theorem toNat_of_isMark {c : Char} (h : isMark c = true) :
    c.toNat < 97 ∨ 122 < c.toNat := by
  rcases eq_of_isMark h with rfl | rfl | rfl | rfl | rfl | rfl | rfl | rfl <;> decide

/-- A character of a kind that no mark is of is no mark. -/
theorem isMark_eq_false_of (kind : Char → Bool) {c : Char}
    (hmarks : ['\\', ',', '(', ')', '[', ']', '\x7b', '\x7d'].any kind = false)
    (hc : kind c = true) : isMark c = false := by
  refine eq_false_of_ne_true fun hmark => ?_
  have hany := List.any_eq_true.mpr ⟨c, of_decide_eq_true hmark, hc⟩
  exact Bool.false_ne_true (hmarks.symm.trans hany)

instance (cs : List Char) : Decidable (Unmarked cs) :=
  List.decidableBAll _ cs

theorem Unmarked.append {xs ys : List Char} (hx : Unmarked xs) (hy : Unmarked ys) :
    Unmarked (xs ++ ys) := by
  intro c hc
  rcases List.mem_append.mp hc with hc | hc
  · exact hx c hc
  · exact hy c hc

/-! ## Comparing loosely -/

theorem eq_of_toLower_eq {c d : Char} (hc : c.toNat < 97 ∨ 122 < c.toNat)
    (h : d.toLower = c) : d = c := by
  unfold Char.toLower at h
  split at h
  · next hupper =>
      have hlow : 65 ≤ d.val.toNat := UInt32.le_iff_toNat_le.mp hupper.1
      have hhigh : d.val.toNat ≤ 90 := UInt32.le_iff_toNat_le.mp hupper.2
      have hnat : (d.val + ('a'.val - 'A'.val)).toNat = c.toNat := congrArg Char.toNat h
      rw [UInt32.toNat_add, show ('a'.val - 'A'.val).toNat = 32 from rfl] at hnat
      omega
  · exact h

theorem toLower_of_isMark {c : Char} (h : isMark c = true) : c.toLower = c := by
  rcases eq_of_isMark h with rfl | rfl | rfl | rfl | rfl | rfl | rfl | rfl <;> decide

/-- Comparing loosely keeps the marks of a name and adds none. -/
theorem mem_looseName_iff {name : String} {c : Char} (h : isMark c = true) :
    c ∈ (looseName name).toList ↔ c ∈ name.toList := by
  have hlower : ∀ {d : Char}, d.toLower = c → d = c :=
    eq_of_toLower_eq (toNat_of_isMark h)
  rw [looseName]
  split
  next stripped body hbody =>
    -- A leading `is` has no mark in it.
    have hmem : c ∈ body ↔ c ∈ name.toList := by
      split at hbody
      · next i s rest heq =>
          split at hbody
          · next hprefix =>
              obtain ⟨rfl, rfl⟩ := Prod.mk.inj hbody
              rw [Bool.and_eq_true, decide_eq_true_eq, decide_eq_true_eq] at hprefix
              have hne : ∀ {d e : Char}, d.toLower = e → c.toLower ≠ e → c ≠ d := by
                rintro d e hd hc rfl
                exact hc hd
              have hi : c ≠ i := hne hprefix.1 (by
                rw [toLower_of_isMark h]
                rintro rfl
                exact absurd h (by decide))
              have hs : c ≠ s := hne hprefix.2 (by
                rw [toLower_of_isMark h]
                rintro rfl
                exact absurd h (by decide))
              rw [heq, List.mem_cons, List.mem_cons]
              exact ⟨fun hc => .inr (.inr hc), fun hc => (hc.resolve_left hi).resolve_left hs⟩
          · rw [← (Prod.mk.inj hbody).2, heq]
      · rw [← (Prod.mk.inj hbody).2]
    have hkept : c ∈ (body.filterMap fun d =>
        if d = ' ' || d = '_' || d = '-' || d.toNat > 0x7F then none else some d.toLower) ↔
          c ∈ body := by
      rw [List.mem_filterMap]
      constructor
      · intro hc
        obtain ⟨d, hd, heq⟩ := hc
        split at heq
        · cases heq
        · exact hlower (Option.some.inj heq) ▸ hd
      · intro hc
        refine ⟨c, hc, ?_⟩
        rw [if_neg, toLower_of_isMark h]
        simp only [Bool.or_eq_true, decide_eq_true_eq, not_or]
        rcases eq_of_isMark h with rfl | rfl | rfl | rfl | rfl | rfl | rfl | rfl <;> decide
    simp only []
    split
    · next hisc =>
        rw [Bool.and_eq_true, decide_eq_true_eq] at hisc
        rw [hisc.2] at hkept
        have hisc : Unmarked "isc".toList ∧ Unmarked ['c'] := by decide
        rw [← hmem, ← hkept]
        exact iff_of_false (fun hc => absurd h (by rw [hisc.1 c hc]; decide))
          (fun hc => absurd h (by rw [hisc.2 c hc]; decide))
    · rw [String.toList_ofList, hkept, hmem]

theorem unmarked_of_looseName {name : String} (h : Unmarked (looseName name).toList) :
    Unmarked name.toList := by
  intro c hc
  refine eq_false_of_ne_true fun hmark => ?_
  exact Bool.false_ne_true ((h c ((mem_looseName_iff hmark).mpr hc)).symm.trans hmark)

theorem unmarked_looseName {name : String} (h : Unmarked name.toList) :
    Unmarked (looseName name).toList := by
  intro c hc
  refine eq_false_of_ne_true fun hmark => ?_
  exact Bool.false_ne_true ((h c ((mem_looseName_iff hmark).mp hc)).symm.trans hmark)

/-! ## The tables of names -/

/-- A mark is one byte long, and no other character has a byte like it. -/
theorem unmarked_of_bytes {s : String}
    (h : ∀ c : Char, isMark c = true → c.val.toUInt8 ∉ s.toByteArray.data.toList) :
    Unmarked s.toList := by
  intro c hc
  refine eq_false_of_ne_true fun hmark => h c hmark ?_
  have hsize : c.utf8Size = 1 := by
    rcases eq_of_isMark hmark with rfl | rfl | rfl | rfl | rfl | rfl | rfl | rfl <;> decide
  have hbytes : s.toByteArray = s.toList.utf8Encode := by
    rw [← String.toByteArray_ofList, String.ofList_toList]
  rw [hbytes, List.utf8Encode, List.data_toByteArray, List.toList_toArray, List.mem_flatMap]
  refine ⟨c, hc, ?_⟩
  rw [String.utf8EncodeChar_eq_singleton hsize]
  exact List.mem_singleton_self _

/-- Whether no spelling in a table of names has a byte of a mark. -/
def unmarkedRows (rows : List (String × List String)) : Bool :=
  rows.all fun row => row.2.all fun spelling =>
    spelling.toByteArray.data.toList.all fun b =>
      b ∉ [0x5C, 0x2C, 0x28, 0x29, 0x5B, 0x5D, 0x7B, 0x7D]

theorem unmarked_of_keyOf? {rows : List (String × List String)} {name key : String}
    (hrows : unmarkedRows rows = true) (h : keyOf? rows (looseName name) = some key) :
    Unmarked name.toList := by
  rw [keyOf?, Option.map_eq_some_iff] at h
  obtain ⟨row, hfind, -⟩ := h
  have hany := List.find?_some hfind
  simp only [List.any_eq_true, beq_iff_eq] at hany
  obtain ⟨spelling, hspelling, hloose⟩ := hany
  refine unmarked_of_looseName ?_
  rw [← hloose]
  refine unmarked_looseName (unmarked_of_bytes ?_)
  have hbytes := List.all_eq_true.mp (List.all_eq_true.mp (List.all_eq_true.mp hrows row
    (List.mem_of_find?_eq_some hfind)) spelling hspelling)
  intro c hc hmem
  have hbyte := hbytes _ hmem
  rcases eq_of_isMark hc with rfl | rfl | rfl | rfl | rfl | rfl | rfl | rfl <;>
    exact absurd hbyte (by decide)

theorem unmarkedRows_binaryPropertyNames : unmarkedRows binaryPropertyNames = true := by
  decide +kernel

theorem unmarkedRows_valuedPropertyNames : unmarkedRows valuedPropertyNames = true := by
  decide +kernel

theorem unmarkedRows_generalCategoryNames : unmarkedRows generalCategoryNames = true := by
  decide +kernel

theorem unmarkedRows_scriptNames : unmarkedRows scriptNames = true := by
  decide +kernel

theorem unmarkedRows_ageNames : unmarkedRows ageNames = true := by
  decide +kernel

theorem unmarkedRows_segmentation : unmarkedRows graphemeBreakNames = true ∧
    unmarkedRows wordBreakNames = true ∧ unmarkedRows sentenceBreakNames = true := by
  decide +kernel

/-! ## Names that are found -/

theorem unmarked_of_generalCategoryNamed? {name : String} {answer : Except PropertyError CharSet}
    (h : generalCategoryNamed? (looseName name) = some answer) : Unmarked name.toList := by
  rw [generalCategoryNamed?.eq_def] at h
  split at h
  · next heq => exact unmarked_of_looseName (by rw [heq]; decide)
  · next heq => exact unmarked_of_looseName (by rw [heq]; decide)
  · next heq => exact unmarked_of_looseName (by rw [heq]; decide)
  · obtain ⟨key, hkey, -⟩ := Option.map_eq_some_iff.mp h
    exact unmarked_of_keyOf? unmarkedRows_generalCategoryNames hkey

theorem unmarked_of_propertyNamed {name : String} {set : CharSet}
    (h : propertyNamed name = .ok set) : Unmarked name.toList := by
  rw [propertyNamed] at h
  split at h
  · next key hkey =>
      split at hkey
      · cases hkey
      · exact unmarked_of_keyOf? unmarkedRows_binaryPropertyNames hkey
  · split at h
    · cases h
    · split at h
      · next hcategory => exact unmarked_of_generalCategoryNamed? hcategory
      · split at h
        · next hscript => exact unmarked_of_keyOf? unmarkedRows_scriptNames hscript
        · cases h

theorem unmarked_of_segmentationClass {names runs : List (String × List String)} {value : String}
    {set : CharSet} (hnames : unmarkedRows names = true)
    (h : segmentationClass names runs (looseName value) = .ok set) : Unmarked value.toList := by
  rw [segmentationClass] at h
  split at h
  · next hfound =>
      obtain ⟨key, hkey, -⟩ := Option.bind_eq_some_iff.mp hfound
      exact unmarked_of_keyOf? hnames hkey
  · cases h

/-- A value that is looked up in a table of names is in it. -/
theorem exists_of_getD_eq_ok {answer? : Option (Except PropertyError CharSet)}
    {e : PropertyError} {set : CharSet} (h : answer?.getD (.error e) = .ok set) :
    answer? = some (.ok set) := by
  cases answer? with
  | none => cases h
  | some answer => exact congrArg some h

theorem unmarked_of_propertyValue {property value : String} {set : CharSet}
    (h : propertyValue property value = .ok set) :
    Unmarked property.toList ∧ Unmarked value.toList := by
  rw [propertyValue] at h
  cases hproperty : keyOf? valuedPropertyNames (looseName property) with
  | none =>
      rw [hproperty] at h
      simp only [] at h
      split at h
      · cases h
      · cases h
  | some key =>
      refine ⟨unmarked_of_keyOf? unmarkedRows_valuedPropertyNames hproperty, ?_⟩
      rw [hproperty] at h
      split at h
      · exact unmarked_of_generalCategoryNamed? (exists_of_getD_eq_ok h)
      · obtain ⟨script, hscript, -⟩ := Option.map_eq_some_iff.mp (exists_of_getD_eq_ok h)
        exact unmarked_of_keyOf? unmarkedRows_scriptNames hscript
      · obtain ⟨script, hscript, -⟩ := Option.map_eq_some_iff.mp (exists_of_getD_eq_ok h)
        exact unmarked_of_keyOf? unmarkedRows_scriptNames hscript
      · obtain ⟨age, hage, -⟩ := Option.map_eq_some_iff.mp (exists_of_getD_eq_ok h)
        exact unmarked_of_keyOf? unmarkedRows_ageNames hage
      · exact unmarked_of_segmentationClass unmarkedRows_segmentation.1 h
      · exact unmarked_of_segmentationClass unmarkedRows_segmentation.2.1 h
      · exact unmarked_of_segmentationClass unmarkedRows_segmentation.2.2 h
      · split at h
        · cases h
        · cases h

/-- The texts that a query is made of. -/
def PropertyQuery.texts : PropertyQuery → List String
  | .named name => [name]
  | .valued property value => [property, value]

theorem unmarked_of_resolve {query : PropertyQuery} {set : CharSet}
    (h : query.resolve = .ok set) : ∀ text ∈ query.texts, Unmarked text.toList := by
  cases query with
  | named name => exact List.forall_mem_singleton.mpr (unmarked_of_propertyNamed h)
  | valued property value =>
      obtain ⟨hproperty, hvalue⟩ := unmarked_of_propertyValue h
      exact List.forall_mem_cons.mpr ⟨hproperty, List.forall_mem_singleton.mpr hvalue⟩

end NodeSieve.Unicode
