/-!
# Names of Unicode properties

The names under which a pattern may ask for a property or for one of its
values. Every row holds the key under which the tables list the property or
value, and then its spellings. Names are compared loosely: case, spaces,
hyphens and underscores do not count, and neither does a leading `is`.
-/

namespace NodeSieve.Unicode

/-- A name without what a loose comparison ignores; what is not ASCII is
dropped as well. -/
def looseName (name : String) : String :=
  let cs := name.toList
  let (stripped, body) := match cs with
    | i :: s :: rest =>
      if i.toLower = 'i' && s.toLower = 's' then (true, rest) else (false, cs)
    | _ => (false, cs)
  let kept := body.filterMap fun c =>
    if c = ' ' || c = '_' || c = '-' || c.toNat > 0x7F then none else some c.toLower
  -- The abbreviation `isc` is a name of its own, and not the category `c`.
  if stripped && kept = ['c'] then "isc" else String.ofList kept

/-- The key of the row that lists a name, given the name in loose form. -/
def keyOf? (rows : List (String × List String)) (loose : String) : Option String :=
  (rows.find? fun row => row.2.any fun spelling => looseName spelling == loose).map (·.1)

/-- The binary properties that have a table. -/
def binaryPropertyNames : List (String × List String) := [
  ("ASCII_Hex_Digit", ["AHex", "ASCII_Hex_Digit"]), ("Alphabetic", ["Alpha", "Alphabetic"]),
  ("Bidi_Control", ["Bidi_C", "Bidi_Control"]), ("Bidi_Mirrored", ["Bidi_M", "Bidi_Mirrored"]),
  ("Cased", ["Cased"]), ("Case_Ignorable", ["CI", "Case_Ignorable"]),
  ("Changes_When_Casefolded", ["CWCF", "Changes_When_Casefolded"]),
  ("Changes_When_Casemapped", ["CWCM", "Changes_When_Casemapped"]),
  ("Changes_When_Lowercased", ["CWL", "Changes_When_Lowercased"]),
  ("Changes_When_Titlecased", ["CWT", "Changes_When_Titlecased"]),
  ("Changes_When_Uppercased", ["CWU", "Changes_When_Uppercased"]), ("Dash", ["Dash"]),
  ("Deprecated", ["Dep", "Deprecated"]),
  ("Default_Ignorable_Code_Point", ["DI", "Default_Ignorable_Code_Point"]),
  ("Diacritic", ["Dia", "Diacritic"]), ("Emoji_Modifier_Base", ["EBase", "Emoji_Modifier_Base"]),
  ("Emoji_Component", ["EComp", "Emoji_Component"]),
  ("Emoji_Modifier", ["EMod", "Emoji_Modifier"]), ("Emoji", ["Emoji"]),
  ("Emoji_Presentation", ["EPres", "Emoji_Presentation"]), ("Extender", ["Ext", "Extender"]),
  ("Extended_Pictographic", ["ExtPict", "Extended_Pictographic"]),
  ("Grapheme_Base", ["Gr_Base", "Grapheme_Base"]),
  ("Grapheme_Extend", ["Gr_Ext", "Grapheme_Extend"]),
  ("Grapheme_Link", ["Gr_Link", "Grapheme_Link"]), ("Hex_Digit", ["Hex", "Hex_Digit"]),
  ("Hyphen", ["Hyphen"]), ("ID_Compat_Math_Continue", ["ID_Compat_Math_Continue"]),
  ("ID_Compat_Math_Start", ["ID_Compat_Math_Start"]), ("ID_Continue", ["IDC", "ID_Continue"]),
  ("Ideographic", ["Ideo", "Ideographic"]), ("ID_Start", ["IDS", "ID_Start"]),
  ("IDS_Binary_Operator", ["IDSB", "IDS_Binary_Operator"]),
  ("IDS_Trinary_Operator", ["IDST", "IDS_Trinary_Operator"]),
  ("IDS_Unary_Operator", ["IDSU", "IDS_Unary_Operator"]),
  ("Join_Control", ["Join_C", "Join_Control"]),
  ("Logical_Order_Exception", ["LOE", "Logical_Order_Exception"]),
  ("Lowercase", ["Lower", "Lowercase"]), ("Math", ["Math"]),
  ("Modifier_Combining_Mark", ["MCM", "Modifier_Combining_Mark"]),
  ("Noncharacter_Code_Point", ["NChar", "Noncharacter_Code_Point"]),
  ("Other_Alphabetic", ["OAlpha", "Other_Alphabetic"]),
  ("Other_Default_Ignorable_Code_Point", ["ODI", "Other_Default_Ignorable_Code_Point"]),
  ("Other_Grapheme_Extend", ["OGr_Ext", "Other_Grapheme_Extend"]),
  ("Other_ID_Continue", ["OIDC", "Other_ID_Continue"]),
  ("Other_ID_Start", ["OIDS", "Other_ID_Start"]),
  ("Other_Lowercase", ["OLower", "Other_Lowercase"]), ("Other_Math", ["OMath", "Other_Math"]),
  ("Other_Uppercase", ["OUpper", "Other_Uppercase"]),
  ("Pattern_Syntax", ["Pat_Syn", "Pattern_Syntax"]),
  ("Pattern_White_Space", ["Pat_WS", "Pattern_White_Space"]),
  ("Prepended_Concatenation_Mark", ["PCM", "Prepended_Concatenation_Mark"]),
  ("Quotation_Mark", ["QMark", "Quotation_Mark"]), ("Radical", ["Radical"]),
  ("Regional_Indicator", ["RI", "Regional_Indicator"]), ("Soft_Dotted", ["SD", "Soft_Dotted"]),
  ("Sentence_Terminal", ["STerm", "Sentence_Terminal"]),
  ("Terminal_Punctuation", ["Term", "Terminal_Punctuation"]),
  ("Unified_Ideograph", ["UIdeo", "Unified_Ideograph"]), ("Uppercase", ["Upper", "Uppercase"]),
  ("Variation_Selector", ["VS", "Variation_Selector"]),
  ("White_Space", ["WSpace", "White_Space", "space"]),
  ("XID_Continue", ["XIDC", "XID_Continue"]), ("XID_Start", ["XIDS", "XID_Start"])]

/-- The properties that take a value. -/
def valuedPropertyNames : List (String × List String) := [
  ("Age", ["age", "Age"]), ("General_Category", ["gc", "General_Category"]),
  ("Grapheme_Cluster_Break", ["GCB", "Grapheme_Cluster_Break"]), ("Script", ["sc", "Script"]),
  ("Script_Extensions", ["scx", "Script_Extensions"]),
  ("Sentence_Break", ["SB", "Sentence_Break"]), ("Word_Break", ["WB", "Word_Break"])]

/-- The properties that exist and that no pattern can use. -/
def otherPropertyNames : List (String × List String) := [
  ("Composition_Exclusion", ["CE", "Composition_Exclusion"]),
  ("Full_Composition_Exclusion", ["Comp_Ex", "Full_Composition_Exclusion"]),
  ("Changes_When_NFKC_Casefolded", ["CWKCF", "Changes_When_NFKC_Casefolded"]),
  ("Expands_On_NFC", ["XO_NFC", "Expands_On_NFC"]),
  ("Expands_On_NFD", ["XO_NFD", "Expands_On_NFD"]),
  ("Expands_On_NFKC", ["XO_NFKC", "Expands_On_NFKC"]),
  ("Expands_On_NFKD", ["XO_NFKD", "Expands_On_NFKD"]), ("Bidi_Class", ["bc", "Bidi_Class"]),
  ("Block", ["blk", "Block"]), ("Bidi_Mirroring_Glyph", ["bmg", "Bidi_Mirroring_Glyph"]),
  ("Bidi_Paired_Bracket", ["bpb", "Bidi_Paired_Bracket"]),
  ("Bidi_Paired_Bracket_Type", ["bpt", "Bidi_Paired_Bracket_Type"]),
  ("Canonical_Combining_Class", ["ccc", "Canonical_Combining_Class"]),
  ("Case_Folding", ["cf", "Case_Folding"]),
  ("kAccountingNumeric", ["cjkAccountingNumeric", "kAccountingNumeric"]),
  ("kCompatibilityVariant", ["cjkCompatibilityVariant", "kCompatibilityVariant"]),
  ("kEH_Cat", ["kEH_Cat"]), ("kEH_Desc", ["kEH_Desc"]), ("kEH_HG", ["kEH_HG"]),
  ("kEH_IFAO", ["kEH_IFAO"]), ("kEH_JSesh", ["kEH_JSesh"]),
  ("kEH_NoMirror", ["kEH_NoMirror"]), ("kEH_NoRotate", ["kEH_NoRotate"]),
  ("kIICore", ["cjkIICore", "kIICore"]), ("kIRG_GSource", ["cjkIRG_GSource", "kIRG_GSource"]),
  ("kIRG_HSource", ["cjkIRG_HSource", "kIRG_HSource"]),
  ("kIRG_JSource", ["cjkIRG_JSource", "kIRG_JSource"]),
  ("kIRG_KPSource", ["cjkIRG_KPSource", "kIRG_KPSource"]),
  ("kIRG_KSource", ["cjkIRG_KSource", "kIRG_KSource"]),
  ("kIRG_MSource", ["cjkIRG_MSource", "kIRG_MSource"]),
  ("kIRG_SSource", ["cjkIRG_SSource", "kIRG_SSource"]),
  ("kIRG_TSource", ["cjkIRG_TSource", "kIRG_TSource"]),
  ("kIRG_UKSource", ["cjkIRG_UKSource", "kIRG_UKSource"]),
  ("kIRG_USource", ["cjkIRG_USource", "kIRG_USource"]),
  ("kIRG_VSource", ["cjkIRG_VSource", "kIRG_VSource"]),
  ("kOtherNumeric", ["cjkOtherNumeric", "kOtherNumeric"]),
  ("kPrimaryNumeric", ["cjkPrimaryNumeric", "kPrimaryNumeric"]),
  ("kRSUnicode", ["cjkRSUnicode", "kRSUnicode", "Unicode_Radical_Stroke", "URS"]),
  ("Decomposition_Mapping", ["dm", "Decomposition_Mapping"]),
  ("Decomposition_Type", ["dt", "Decomposition_Type"]),
  ("East_Asian_Width", ["ea", "East_Asian_Width"]),
  ("Equivalent_Unified_Ideograph", ["EqUIdeo", "Equivalent_Unified_Ideograph"]),
  ("FC_NFKC_Closure", ["FC_NFKC", "FC_NFKC_Closure"]),
  ("Hangul_Syllable_Type", ["hst", "Hangul_Syllable_Type"]),
  ("Indic_Conjunct_Break", ["InCB", "Indic_Conjunct_Break"]),
  ("Indic_Positional_Category", ["InPC", "Indic_Positional_Category"]),
  ("Indic_Syllabic_Category", ["InSC", "Indic_Syllabic_Category"]),
  ("ISO_Comment", ["isc", "ISO_Comment"]), ("Joining_Group", ["jg", "Joining_Group"]),
  ("Jamo_Short_Name", ["JSN", "Jamo_Short_Name"]), ("Joining_Type", ["jt", "Joining_Type"]),
  ("Line_Break", ["lb", "Line_Break"]), ("Lowercase_Mapping", ["lc", "Lowercase_Mapping"]),
  ("Name", ["na", "Name"]), ("Unicode_1_Name", ["na1", "Unicode_1_Name"]),
  ("Name_Alias", ["Name_Alias"]), ("NFC_Quick_Check", ["NFC_QC", "NFC_Quick_Check"]),
  ("NFD_Quick_Check", ["NFD_QC", "NFD_Quick_Check"]),
  ("NFKC_Casefold", ["NFKC_CF", "NFKC_Casefold"]),
  ("NFKC_Quick_Check", ["NFKC_QC", "NFKC_Quick_Check"]),
  ("NFKC_Simple_Casefold", ["NFKC_SCF", "NFKC_Simple_Casefold"]),
  ("NFKD_Quick_Check", ["NFKD_QC", "NFKD_Quick_Check"]),
  ("Numeric_Type", ["nt", "Numeric_Type"]), ("Numeric_Value", ["nv", "Numeric_Value"]),
  ("Simple_Case_Folding", ["scf", "Simple_Case_Folding", "sfc"]),
  ("Simple_Lowercase_Mapping", ["slc", "Simple_Lowercase_Mapping"]),
  ("Simple_Titlecase_Mapping", ["stc", "Simple_Titlecase_Mapping"]),
  ("Simple_Uppercase_Mapping", ["suc", "Simple_Uppercase_Mapping"]),
  ("Titlecase_Mapping", ["tc", "Titlecase_Mapping"]),
  ("Uppercase_Mapping", ["uc", "Uppercase_Mapping"]),
  ("Vertical_Orientation", ["vo", "Vertical_Orientation"])]

/-- The general categories and their groups, under the short name. -/
def generalCategoryNames : List (String × List String) := [
  ("C", ["C", "Other"]), ("Cc", ["Cc", "Control", "cntrl"]), ("Cf", ["Cf", "Format"]),
  ("Cn", ["Cn", "Unassigned"]), ("Co", ["Co", "Private_Use"]), ("Cs", ["Cs", "Surrogate"]),
  ("L", ["L", "Letter"]), ("LC", ["LC", "Cased_Letter"]), ("Ll", ["Ll", "Lowercase_Letter"]),
  ("Lm", ["Lm", "Modifier_Letter"]), ("Lo", ["Lo", "Other_Letter"]),
  ("Lt", ["Lt", "Titlecase_Letter"]), ("Lu", ["Lu", "Uppercase_Letter"]),
  ("M", ["M", "Mark", "Combining_Mark"]), ("Mc", ["Mc", "Spacing_Mark"]),
  ("Me", ["Me", "Enclosing_Mark"]), ("Mn", ["Mn", "Nonspacing_Mark"]), ("N", ["N", "Number"]),
  ("Nd", ["Nd", "Decimal_Number", "digit"]), ("Nl", ["Nl", "Letter_Number"]),
  ("No", ["No", "Other_Number"]), ("P", ["P", "Punctuation", "punct"]),
  ("Pc", ["Pc", "Connector_Punctuation"]), ("Pd", ["Pd", "Dash_Punctuation"]),
  ("Pe", ["Pe", "Close_Punctuation"]), ("Pf", ["Pf", "Final_Punctuation"]),
  ("Pi", ["Pi", "Initial_Punctuation"]), ("Po", ["Po", "Other_Punctuation"]),
  ("Ps", ["Ps", "Open_Punctuation"]), ("S", ["S", "Symbol"]), ("Sc", ["Sc", "Currency_Symbol"]),
  ("Sk", ["Sk", "Modifier_Symbol"]), ("Sm", ["Sm", "Math_Symbol"]),
  ("So", ["So", "Other_Symbol"]), ("Z", ["Z", "Separator"]), ("Zl", ["Zl", "Line_Separator"]),
  ("Zp", ["Zp", "Paragraph_Separator"]), ("Zs", ["Zs", "Space_Separator"])]

/-- The scripts, and the names that stand for no single script and so have no
row of characters. -/
def scriptNames : List (String × List String) := [
  ("Adlam", ["Adlm", "Adlam"]), ("Caucasian_Albanian", ["Aghb", "Caucasian_Albanian"]),
  ("Ahom", ["Ahom", "Ahom"]), ("Arabic", ["Arab", "Arabic"]),
  ("Imperial_Aramaic", ["Armi", "Imperial_Aramaic"]), ("Armenian", ["Armn", "Armenian"]),
  ("Avestan", ["Avst", "Avestan"]), ("Balinese", ["Bali", "Balinese"]),
  ("Bamum", ["Bamu", "Bamum"]), ("Bassa_Vah", ["Bass", "Bassa_Vah"]),
  ("Batak", ["Batk", "Batak"]), ("Bengali", ["Beng", "Bengali"]),
  ("Bhaiksuki", ["Bhks", "Bhaiksuki"]), ("Bopomofo", ["Bopo", "Bopomofo"]),
  ("Brahmi", ["Brah", "Brahmi"]), ("Braille", ["Brai", "Braille"]),
  ("Buginese", ["Bugi", "Buginese"]), ("Buhid", ["Buhd", "Buhid"]),
  ("Chakma", ["Cakm", "Chakma"]), ("Canadian_Aboriginal", ["Cans", "Canadian_Aboriginal"]),
  ("Carian", ["Cari", "Carian"]), ("Cham", ["Cham", "Cham"]), ("Cherokee", ["Cher", "Cherokee"]),
  ("Chorasmian", ["Chrs", "Chorasmian"]), ("Coptic", ["Copt", "Coptic", "Qaac"]),
  ("Cypro_Minoan", ["Cpmn", "Cypro_Minoan"]), ("Cypriot", ["Cprt", "Cypriot"]),
  ("Cyrillic", ["Cyrl", "Cyrillic"]), ("Devanagari", ["Deva", "Devanagari"]),
  ("Dives_Akuru", ["Diak", "Dives_Akuru"]), ("Dogra", ["Dogr", "Dogra"]),
  ("Deseret", ["Dsrt", "Deseret"]), ("Duployan", ["Dupl", "Duployan"]),
  ("Egyptian_Hieroglyphs", ["Egyp", "Egyptian_Hieroglyphs"]), ("Elbasan", ["Elba", "Elbasan"]),
  ("Elymaic", ["Elym", "Elymaic"]), ("Ethiopic", ["Ethi", "Ethiopic"]),
  ("Georgian", ["Geor", "Georgian"]), ("Glagolitic", ["Glag", "Glagolitic"]),
  ("Gunjala_Gondi", ["Gong", "Gunjala_Gondi"]), ("Masaram_Gondi", ["Gonm", "Masaram_Gondi"]),
  ("Gothic", ["Goth", "Gothic"]), ("Grantha", ["Gran", "Grantha"]), ("Greek", ["Grek", "Greek"]),
  ("Gujarati", ["Gujr", "Gujarati"]), ("Gurmukhi", ["Guru", "Gurmukhi"]),
  ("Hangul", ["Hang", "Hangul"]), ("Han", ["Hani", "Han"]), ("Hanunoo", ["Hano", "Hanunoo"]),
  ("Hatran", ["Hatr", "Hatran"]), ("Hebrew", ["Hebr", "Hebrew"]),
  ("Hiragana", ["Hira", "Hiragana"]),
  ("Anatolian_Hieroglyphs", ["Hluw", "Anatolian_Hieroglyphs"]),
  ("Pahawh_Hmong", ["Hmng", "Pahawh_Hmong"]),
  ("Nyiakeng_Puachue_Hmong", ["Hmnp", "Nyiakeng_Puachue_Hmong"]),
  ("Old_Hungarian", ["Hung", "Old_Hungarian"]), ("Old_Italic", ["Ital", "Old_Italic"]),
  ("Javanese", ["Java", "Javanese"]), ("Kayah_Li", ["Kali", "Kayah_Li"]),
  ("Katakana", ["Kana", "Katakana"]), ("Kawi", ["Kawi", "Kawi"]),
  ("Kharoshthi", ["Khar", "Kharoshthi"]), ("Khmer", ["Khmr", "Khmer"]),
  ("Khojki", ["Khoj", "Khojki"]), ("Khitan_Small_Script", ["Kits", "Khitan_Small_Script"]),
  ("Kannada", ["Knda", "Kannada"]), ("Kaithi", ["Kthi", "Kaithi"]),
  ("Tai_Tham", ["Lana", "Tai_Tham"]), ("Lao", ["Laoo", "Lao"]), ("Latin", ["Latn", "Latin"]),
  ("Lepcha", ["Lepc", "Lepcha"]), ("Limbu", ["Limb", "Limbu"]),
  ("Linear_A", ["Lina", "Linear_A"]), ("Linear_B", ["Linb", "Linear_B"]),
  ("Lisu", ["Lisu", "Lisu"]), ("Lycian", ["Lyci", "Lycian"]), ("Lydian", ["Lydi", "Lydian"]),
  ("Mahajani", ["Mahj", "Mahajani"]), ("Makasar", ["Maka", "Makasar"]),
  ("Mandaic", ["Mand", "Mandaic"]), ("Manichaean", ["Mani", "Manichaean"]),
  ("Marchen", ["Marc", "Marchen"]), ("Medefaidrin", ["Medf", "Medefaidrin"]),
  ("Mende_Kikakui", ["Mend", "Mende_Kikakui"]),
  ("Meroitic_Cursive", ["Merc", "Meroitic_Cursive"]),
  ("Meroitic_Hieroglyphs", ["Mero", "Meroitic_Hieroglyphs"]),
  ("Malayalam", ["Mlym", "Malayalam"]), ("Modi", ["Modi", "Modi"]),
  ("Mongolian", ["Mong", "Mongolian"]), ("Mro", ["Mroo", "Mro"]),
  ("Meetei_Mayek", ["Mtei", "Meetei_Mayek"]), ("Multani", ["Mult", "Multani"]),
  ("Myanmar", ["Mymr", "Myanmar"]), ("Nag_Mundari", ["Nagm", "Nag_Mundari"]),
  ("Nandinagari", ["Nand", "Nandinagari"]), ("Old_North_Arabian", ["Narb", "Old_North_Arabian"]),
  ("Nabataean", ["Nbat", "Nabataean"]), ("Newa", ["Newa", "Newa"]), ("Nko", ["Nkoo", "Nko"]),
  ("Nushu", ["Nshu", "Nushu"]), ("Ogham", ["Ogam", "Ogham"]), ("Ol_Chiki", ["Olck", "Ol_Chiki"]),
  ("Old_Turkic", ["Orkh", "Old_Turkic"]), ("Oriya", ["Orya", "Oriya"]),
  ("Osage", ["Osge", "Osage"]), ("Osmanya", ["Osma", "Osmanya"]),
  ("Old_Uyghur", ["Ougr", "Old_Uyghur"]), ("Palmyrene", ["Palm", "Palmyrene"]),
  ("Pau_Cin_Hau", ["Pauc", "Pau_Cin_Hau"]), ("Old_Permic", ["Perm", "Old_Permic"]),
  ("Phags_Pa", ["Phag", "Phags_Pa"]),
  ("Inscriptional_Pahlavi", ["Phli", "Inscriptional_Pahlavi"]),
  ("Psalter_Pahlavi", ["Phlp", "Psalter_Pahlavi"]), ("Phoenician", ["Phnx", "Phoenician"]),
  ("Miao", ["Plrd", "Miao"]), ("Inscriptional_Parthian", ["Prti", "Inscriptional_Parthian"]),
  ("Rejang", ["Rjng", "Rejang"]), ("Hanifi_Rohingya", ["Rohg", "Hanifi_Rohingya"]),
  ("Runic", ["Runr", "Runic"]), ("Samaritan", ["Samr", "Samaritan"]),
  ("Old_South_Arabian", ["Sarb", "Old_South_Arabian"]), ("Saurashtra", ["Saur", "Saurashtra"]),
  ("SignWriting", ["Sgnw", "SignWriting"]), ("Shavian", ["Shaw", "Shavian"]),
  ("Sharada", ["Shrd", "Sharada"]), ("Siddham", ["Sidd", "Siddham"]),
  ("Khudawadi", ["Sind", "Khudawadi"]), ("Sinhala", ["Sinh", "Sinhala"]),
  ("Sogdian", ["Sogd", "Sogdian"]), ("Old_Sogdian", ["Sogo", "Old_Sogdian"]),
  ("Sora_Sompeng", ["Sora", "Sora_Sompeng"]), ("Soyombo", ["Soyo", "Soyombo"]),
  ("Sundanese", ["Sund", "Sundanese"]), ("Syloti_Nagri", ["Sylo", "Syloti_Nagri"]),
  ("Syriac", ["Syrc", "Syriac"]), ("Tagbanwa", ["Tagb", "Tagbanwa"]),
  ("Takri", ["Takr", "Takri"]), ("Tai_Le", ["Tale", "Tai_Le"]),
  ("New_Tai_Lue", ["Talu", "New_Tai_Lue"]), ("Tamil", ["Taml", "Tamil"]),
  ("Tangut", ["Tang", "Tangut"]), ("Tai_Viet", ["Tavt", "Tai_Viet"]),
  ("Telugu", ["Telu", "Telugu"]), ("Tifinagh", ["Tfng", "Tifinagh"]),
  ("Tagalog", ["Tglg", "Tagalog"]), ("Thaana", ["Thaa", "Thaana"]), ("Thai", ["Thai", "Thai"]),
  ("Tibetan", ["Tibt", "Tibetan"]), ("Tirhuta", ["Tirh", "Tirhuta"]),
  ("Tangsa", ["Tnsa", "Tangsa"]), ("Toto", ["Toto", "Toto"]), ("Ugaritic", ["Ugar", "Ugaritic"]),
  ("Vai", ["Vaii", "Vai"]), ("Vithkuqi", ["Vith", "Vithkuqi"]),
  ("Warang_Citi", ["Wara", "Warang_Citi"]), ("Wancho", ["Wcho", "Wancho"]),
  ("Old_Persian", ["Xpeo", "Old_Persian"]), ("Cuneiform", ["Xsux", "Cuneiform"]),
  ("Yezidi", ["Yezi", "Yezidi"]), ("Yi", ["Yiii", "Yi"]),
  ("Zanabazar_Square", ["Zanb", "Zanabazar_Square"]),
  ("Inherited", ["Zinh", "Inherited", "Qaai"]), ("Common", ["Zyyy", "Common"]),
  ("Unknown", ["Zzzz", "Unknown"]), ("Garay", ["Gara", "Garay"]),
  ("Gurung_Khema", ["Gukh", "Gurung_Khema"]), ("Kirat_Rai", ["Krai", "Kirat_Rai"]),
  ("Ol_Onal", ["Onao", "Ol_Onal"]), ("Sunuwar", ["Sunu", "Sunuwar"]),
  ("Todhri", ["Todr", "Todhri"]), ("Tulu_Tigalari", ["Tutg", "Tulu_Tigalari"]),
  ("Katakana_Or_Hiragana", ["Hrkt", "Katakana_Or_Hiragana"])]

/-- The versions of the standard, oldest first. -/
def ageNames : List (String × List String) := [
  ("V1_1", ["1.1", "V1_1"]), ("V2_0", ["2.0", "V2_0"]), ("V2_1", ["2.1", "V2_1"]),
  ("V3_0", ["3.0", "V3_0"]), ("V3_1", ["3.1", "V3_1"]), ("V3_2", ["3.2", "V3_2"]),
  ("V4_0", ["4.0", "V4_0"]), ("V4_1", ["4.1", "V4_1"]), ("V5_0", ["5.0", "V5_0"]),
  ("V5_1", ["5.1", "V5_1"]), ("V5_2", ["5.2", "V5_2"]), ("V6_0", ["6.0", "V6_0"]),
  ("V6_1", ["6.1", "V6_1"]), ("V6_2", ["6.2", "V6_2"]), ("V6_3", ["6.3", "V6_3"]),
  ("V7_0", ["7.0", "V7_0"]), ("V8_0", ["8.0", "V8_0"]), ("V9_0", ["9.0", "V9_0"]),
  ("V10_0", ["10.0", "V10_0"]), ("V11_0", ["11.0", "V11_0"]), ("V12_0", ["12.0", "V12_0"]),
  ("V12_1", ["12.1", "V12_1"]), ("V13_0", ["13.0", "V13_0"]), ("V14_0", ["14.0", "V14_0"]),
  ("V15_0", ["15.0", "V15_0"]), ("V15_1", ["15.1", "V15_1"]), ("V16_0", ["16.0", "V16_0"]),
  ("Unassigned", ["NA", "Unassigned"])]

/-- The classes of `Grapheme_Cluster_Break`. -/
def graphemeBreakNames : List (String × List String) := [
  ("Control", ["CN", "Control"]), ("CR", ["CR", "CR"]), ("E_Base", ["EB", "E_Base"]),
  ("E_Base_GAZ", ["EBG", "E_Base_GAZ"]), ("E_Modifier", ["EM", "E_Modifier"]),
  ("Extend", ["EX", "Extend"]), ("Glue_After_Zwj", ["GAZ", "Glue_After_Zwj"]), ("L", ["L", "L"]),
  ("LF", ["LF", "LF"]), ("LV", ["LV", "LV"]), ("LVT", ["LVT", "LVT"]),
  ("Prepend", ["PP", "Prepend"]), ("Regional_Indicator", ["RI", "Regional_Indicator"]),
  ("SpacingMark", ["SM", "SpacingMark"]), ("T", ["T", "T"]), ("V", ["V", "V"]),
  ("Other", ["XX", "Other"]), ("ZWJ", ["ZWJ", "ZWJ"])]

/-- The classes of `Word_Break`. -/
def wordBreakNames : List (String × List String) := [
  ("CR", ["CR", "CR"]), ("Double_Quote", ["DQ", "Double_Quote"]), ("E_Base", ["EB", "E_Base"]),
  ("E_Base_GAZ", ["EBG", "E_Base_GAZ"]), ("E_Modifier", ["EM", "E_Modifier"]),
  ("ExtendNumLet", ["EX", "ExtendNumLet"]), ("Extend", ["Extend", "Extend"]),
  ("Format", ["FO", "Format"]), ("Glue_After_Zwj", ["GAZ", "Glue_After_Zwj"]),
  ("Hebrew_Letter", ["HL", "Hebrew_Letter"]), ("Katakana", ["KA", "Katakana"]),
  ("ALetter", ["LE", "ALetter"]), ("LF", ["LF", "LF"]), ("MidNumLet", ["MB", "MidNumLet"]),
  ("MidLetter", ["ML", "MidLetter"]), ("MidNum", ["MN", "MidNum"]),
  ("Newline", ["NL", "Newline"]), ("Numeric", ["NU", "Numeric"]),
  ("Regional_Indicator", ["RI", "Regional_Indicator"]), ("Single_Quote", ["SQ", "Single_Quote"]),
  ("WSegSpace", ["WSegSpace", "WSegSpace"]), ("Other", ["XX", "Other"]), ("ZWJ", ["ZWJ", "ZWJ"])]

/-- The classes of `Sentence_Break`. -/
def sentenceBreakNames : List (String × List String) := [
  ("ATerm", ["AT", "ATerm"]), ("Close", ["CL", "Close"]), ("CR", ["CR", "CR"]),
  ("Extend", ["EX", "Extend"]), ("Format", ["FO", "Format"]), ("OLetter", ["LE", "OLetter"]),
  ("LF", ["LF", "LF"]), ("Lower", ["LO", "Lower"]), ("Numeric", ["NU", "Numeric"]),
  ("SContinue", ["SC", "SContinue"]), ("Sep", ["SE", "Sep"]), ("Sp", ["SP", "Sp"]),
  ("STerm", ["ST", "STerm"]), ("Upper", ["UP", "Upper"]), ("Other", ["XX", "Other"])]

end NodeSieve.Unicode
