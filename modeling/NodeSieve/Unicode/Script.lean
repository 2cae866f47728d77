import NodeSieve.Unicode.Runs

/-!
# Scripts

One row of runs for each script, under its full name, and for script extensions
a second table with the scripts whose extensions differ from the script itself.
-/

namespace NodeSieve.Unicode

/-- The characters of each script. -/
def scriptRuns : List (String × List String) := [
  ("Adlam", [
    "HDEuCyekec"]),
  ("Ahom", [
    "EBRcBbcpex"]),
  ("Anatolian_Hieroglyphs", [
    "ESSeWl"]),
  ("Arabic", [
    "CHcfbgbobdbBgbklBabEebBiDcBwJgBfbcfCxbBdDNTwElqNzcDccCchbBgqEifbFfFVnBfCpdCdeDGLsebBbbcb",
    "bcbbkbebbbbgbebbbbbbdbcbbcbbbbbbbbbbcbbcebhbebebbbkbrfdbfbrCac"]),
  ("Armenian", [
    "BZdBmcBycdDOZjf"]),
  ("Avestan", [
    "DXCyCcdh"]),
  ("Balinese", [
    "KFwCzbBy"]),
  ("Bamum", [
    "CLCqDkCVCqVx"]),
  ("Bassa_Vah", [
    "FHKiBecg"]),
  ("Batak", [
    "KNgCaie"]),
  ("Bengali", [
    "DPoebicccwbhbbdecjccceibecbfcz"]),
  ("Bhaiksuki", [
    "EDOijbBtbokBd"]),
  ("Bopomofo", [
    "BCscRLxBrEiBg"]),
  ("Brahmi", [
    "DZAeDaeBkjb"]),
  ("Braille", [
    "PDwJw"]),
  ("Buginese", [
    "JWaBccc"]),
  ("Buhid", [
    "IUyu"]),
  ("Canadian_Aboriginal", [
    "HOyYqVoCsDTPqq"]),
  ("Carian", [
    "DTYmBx"]),
  ("Caucasian_Albanian", [
    "DUXsCalb"]),
  ("Chakma", [
    "DZKaCbbs"]),
  ("Cham", [
    "CMJwCdjockce"]),
  ("Cherokee", [
    "HLgDicgCFJeDc"]),
  ("Chorasmian", [
    "DYXcBc"]),
  ("Common", [
    "aCnBagBaBvbpbfxbBfbRhBnffcuEmbjbgbbbYnbgbobdbBgbGabTwbEzcBVtbPpeLebCGldCtcHvcbbBVhbnbheb",
    "gbdcbBDtmcDjbldlbprBhClBmbdcgbBbbrBpdeZqwlvBJsJwYecBgbEbTsDqPmvbbbzpieeDncdbDmcFrqBgBmjb",
    "BwCmBfDdBvbDkGmJToCmBHSiBiDydGjkJkbGebPfbocBEZqcIakwBjbtbeFrbbBgBagBalkbBtcCmhbhkfJydeBt",
    "djDcnBzBtIuBbCSHweFVgJqgQuGaEmCiJmkBncCkdrichBeeCjIfumumDjjzFfDhbCtbccbcccebmbbbhbCnbeci",
    "bhbBcbebfbbdhbNccLgcByHThCqCyCjBBeBseDwmpcpbpbBlkGsCeBabcnBsejhcogFyBLwerdndEpeDrgmebpme",
    "CeikgBoiBecmecCkNcmocndkfCehpclgjhFrbDyBSUXbbBeDs"]),
  ("Coptic", [
    "BMgoPJkEmfh"]),
  ("Cuneiform", [
    "EFBsBJmDyEhbflHo"]),
  ("Cypriot", [
    "DVZkgcbbBsbcdbcb"]),
  ("Cypro_Minoan", [
    "EKYyDv"]),
  ("Cyrillic", [
    "BNkFdcGnIVolGebCybGFnBgBTOaDsBHEccDHPgCkBhb"]),
  ("Deseret", [
    "DUMaDc"]),
  ("Devanagari", [
    "DKqDdepcBaCIJgBgBREmk"]),
  ("Dives_Akuru", [
    "ECKuhcbcibcbBebccmjk"]),
  ("Dogra", [
    "ECAyCi"]),
  ("Duployan", [
    "GMDsEdfndjhkce"]),
  ("Egyptian_Hieroglyphs", [
    "ELDgBQskFXr"]),
  ("Elbasan", [
    "DUVwBo"]),
  ("Elymaic", [
    "DYYyx"]),
  ("Ethiopic", [
    "GVgCvbechbbbecBpbecBhbechbbbecpbCfbecCpcBgdBaJVaxjhbhbhbhbhbhbhbhBVKcgcgcgjhbhEPYfhbebcb",
    "p"]),
  ("Garay", [
    "DXZcBmdBdic"]),
  ("Georgian", [
    "GHsBmbbfbcBrbeEJwBrcdGEaBmbbfb"]),
  ("Glagolitic", [
    "QRgDsGIZghbrchbcbf"]),
  ("Gothic", [
    "DUEaBb"]),
  ("Grantha", [
    "EADsebicccwbhbcbfcjcccdcbgbfhchdf"]),
  ("Greek", [
    "BHwebdcebbebbbbdbbbubCloqJNqfByfefDgbMiwcgcBmcgcibbbbbbbBfcCbbpbocgbtcdbjLjbCAJebBGNiDbr",
    "bDAXrCs"]),
  ("Gujarati", [
    "DZldbjbdbwbhbcbfckbdbdcbpecmhh"]),
  ("Gunjala_Gondi", [
    "EEBwgbcbBlbcbghk"]),
  ("Gurmukhi", [
    "DUndbgeccwbhbcbcbccbbfeccddbhebbhr"]),
  ("Gurung_Khema", [
    "FDRsCg"]),
  ("Han", [
    "RPwBabDlmIgBvbbbzjoeBLcJToCmBFBkBHSiOccEcBSIicmcCCOkCLFcBgGDugIocINqoLBlpXyDQwUwCFyHHzfG",
    "Fg"]),
  ("Hangul", [
    "GLkJwLLecJxDqEjBfCnBfBTAnBdYtQNsmxeBxPAiBfdgcgcgcd"]),
  ("Hanifi_Rohingya", [
    "DXWqBoik"]),
  ("Hanunoo", [
    "ITsv"]),
  ("Hatran", [
    "DWIatbcff"]),
  ("Hebrew", [
    "CCvCdiBbegDOVwBabfbbbcbcbk"]),
  ("Hiragana", [
    "SHdDigdFPEvLbsbBddYMvb"]),
  ("Imperial_Aramaic", [
    "DWBwwbj"]),
  ("Inherited", [
    "BDoEiKrcRklBabBCieGOxBfTtdbnbhebgbdcHqCmUecHmBhFTxeEdcCZUjqqoBLnbIsbGFabCTCuBucxUydrichB",
    "eeBTLHiJg"]),
  ("Inscriptional_Pahlavi", [
    "DXGqtfi"]),
  ("Inscriptional_Parthian", [
    "DXFkwci"]),
  ("Javanese", [
    "CMEyDackec"]),
  ("Kaithi", [
    "DZFcCpkb"]),
  ("Kannada", [
    "ETcnbdbxbkbfcjbdbehcgcbeckbd"]),
  ("Katakana", [
    "SKvDmcdJgqIaBvbDkCZHekbBtCOUcebhbcbbLbdByboe"]),
  ("Kawi", [
    "EERwrbBpdBd"]),
  ("Kayah_Li", [
    "CMAaBubb"]),
  ("Kharoshthi", [
    "DWTcebcfibdbBdcdekhj"]),
  ("Khitan_Small_Script", [
    "FJIibKGxScBpb"]),
  ("Khmer", [
    "IXkDqckgkSsBg"]),
  ("Khojki", [
    "DZTwsbBv"]),
  ("Khudawadi", [
    "EAAqChfk"]),
  ("Kirat_Rai", [
    "FIIiCg"]),
  ("Lao", [
    "FMvcbbbfbybbbxcfbbbhbkce"]),
  ("Latin", [
    "CnBagBaBvbpbfxbBfbRhBnfJXbBmgBxfefnbCsCnJwOfbnbqnFlcgbBbbrBpECtBgBULmDydCpccbbbivoBFkBrb",
    "jbeBEDqhBOkBagBaDCfgbBqbjDDNpBfgg"]),
  ("Lepcha", [
    "KPsCedpdd"]),
  ("Limbu", [
    "JMeBfbmemebdm"]),
  ("Linear_A", [
    "DVFsLzjwki"]),
  ("Linear_B", [
    "DSYqmbBabtbcbpcoBiEt"]),
  ("Lisu", [
    "CKKuBwBUMab"]),
  ("Lycian", [
    "DTXgBd"]),
  ("Lydian", [
    "DWKmBafb"]),
  ("Mahajani", [
    "DZNcBn"]),
  ("Makasar", [
    "EEQqz"]),
  ("Malayalam", [
    "EYanbdbBzbdbgeqcBa"]),
  ("Mandaic", [
    "DDgBccb"]),
  ("Manichaean", [
    "DXAmBnem"]),
  ("Marchen", [
    "EDSqBgcwbo"]),
  ("Masaram_Gondi", [
    "EDYehbcbBsdbbcbjik"]),
  ("Medefaidrin", [
    "FISeDn"]),
  ("Meetei_Mayek", [
    "CMSmxHtBuck"]),
  ("Mende_Kikakui", [
    "HCUyHpcq"]),
  ("Meroitic_Cursive", [
    "DWPkyeucBu"]),
  ("Meroitic_Hieroglyphs", [
    "DWOeBg"]),
  ("Miao", [
    "FIZoCxeCfhr"]),
  ("Modi", [
    "EBHgCrlk"]),
  ("Mongolian", [
    "JCiccbbugDlhBrDSCbn"]),
  ("Mro", [
    "FHEuBfbkec"]),
  ("Multani", [
    "DZYuhbbbebpbl"]),
  ("Myanmar", [
    "GBoGeCGAyBfDtBgBPAmu"]),
  ("Nabataean", [
    "DWEiBfij"]),
  ("Nag_Mundari", [
    "HBPoBq"]),
  ("Nandinagari", [
    "ECQyicBucl"]),
  ("New_Tai_Lue", [
    "JRcBseBagldc"]),
  ("Newa", [
    "EANoDobf"]),
  ("Nko", [
    "CYiChcd"]),
  ("Nushu", [
    "FJIfbYVmPg"]),
  ("Nyiakeng_Puachue_Hmong", [
    "HAEaBtdockec"]),
  ("Ogham", [
    "INoBd"]),
  ("Ol_Chiki", [
    "KSuBw"]),
  ("Ol_Onal", [
    "HBZkBreb"]),
  ("Old_Hungarian", [
    "DXRsBznBzhg"]),
  ("Old_Italic", [
    "DUCeBkjd"]),
  ("Old_North_Arabian", [
    "DWYaBg"]),
  ("Old_Permic", [
    "DUFgBr"]),
  ("Old_Persian", [
    "DUIiBkeo"]),
  ("Old_Sogdian", [
    "DYQiBo"]),
  ("Old_South_Arabian", [
    "DWWuBg"]),
  ("Old_Turkic", [
    "DXMuCv"]),
  ("Old_Uyghur", [
    "DYUqBa"]),
  ("Oriya", [
    "EEjdbicccwbhbcbfcjcccdhdecbfcs"]),
  ("Osage", [
    "DUSuBkeBk"]),
  ("Osmanya", [
    "DUQyBeck"]),
  ("Pahawh_Hmong", [
    "FHMeCskkbhbvft"]),
  ("Palmyrene", [
    "DWDcBg"]),
  ("Pau_Cin_Hau", [
    "EDCaCf"]),
  ("Phags_Pa", [
    "CLSqCe"]),
  ("Phoenician", [
    "DWJgBcdb"]),
  ("Psalter_Pahlavi", [
    "DXHwshemh"]),
  ("Rejang", [
    "CMBwBklb"]),
  ("Runic", [
    "IOuCxdl"]),
  ("Samaritan", [
    "DAuBucp"]),
  ("Saurashtra", [
    "CLVcCsim"]),
  ("Sharada", [
    "DZOyDs"]),
  ("Shavian", [
    "DUPcBw"]),
  ("Siddham", [
    "EBCiCccBm"]),
  ("SignWriting", [
    "GWTkZcpfbp"]),
  ("Sinhala", [
    "FCzdbsdybjbbchdbegbbbigkcdDULgu"]),
  ("Sogdian", [
    "DYSeBq"]),
  ("Sora_Sompeng", [
    "DZIezhk"]),
  ("Soyombo", [
    "ECXsDf"]),
  ("Sundanese", [
    "KKuCmJwi"]),
  ("Sunuwar", [
    "EDLwBiok"]),
  ("Syloti_Nagri", [
    "CLQeBt"]),
  ("Syriac", [
    "CQyobCicdKml"]),
  ("Tagalog", [
    "ISmwjb"]),
  ("Tagbanwa", [
    "IWenbdbc"]),
  ("Tai_Le", [
    "JPgBecf"]),
  ("Tai_Tham", [
    "JXgClbBdclgkgo"]),
  ("Tai_Viet", [
    "CMOuCpyf"]),
  ("Takri", [
    "EBMeCggk"]),
  ("Tamil", [
    "EJicbgddbedcbbbcdcdddmefddbecbgbovEALhBynb"]),
  ("Tangsa", [
    "FHGqDbbk"]),
  ("Tangut", [
    "FJIebBfJCaiBDoTsj"]),
  ("Telugu", [
    "EOenbdbxbqcjbdbehcbdcbceckhj"]),
  ("Thaana", [
    "CVwBy"]),
  ("Thai", [
    "FHxCgfBc"]),
  ("Tibetan", [
    "FRsCubBkeBnbBkbpbhec"]),
  ("Tifinagh", [
    "RCyCehcob"]),
  ("Tirhuta", [
    "EASmCuik"]),
  ("Todhri", [
    "DVDgCa"]),
  ("Toto", [
    "HATkBf"]),
  ("Tulu_Tigalari", [
    "EAIqkbbcbbBmbkbbcbbebkbcic"]),
  ("Ugaritic", [
    "DUHcBebb"]),
  ("Vai", [
    "CKMqLo"]),
  ("Vithkuqi", [
    "DVAelbpbhbcblbpbhbc"]),
  ("Wancho", [
    "HAVgCgfb"]),
  ("Warang_Citi", [
    "ECHcDfmb"]),
  ("Yezidi", [
    "DYLkBqbdcc"]),
  ("Yi", [
    "CIPkBSvdCd"]),
  ("Zanabazar_Square", [
    "ECUqCu"])]

/-- The characters used with a script, where that is not the script alone. -/
def scriptExtensionRuns : List (String × List String) := [
  ("Adlam", [
    "CIhbBgbJWobFHhbGLRiCyekec"]),
  ("Arabic", [
    "CHcfbIhbBiDcBwJgBfbcfCxbBdIVnbFHhbCZRaElqRdcCchbBgqEifbFfBMhBcEIeBfCpdCdeDGLsebBbbcbbcbb",
    "kbebbbbgbebbbbbbdbcbbcbbbbbbbbbbcbbcebhbebebbbkbrfdbfbrCac"]),
  ("Armenian", [
    "BDwbVgBmcBycdDOZjf"]),
  ("Avestan", [
    "HbbRFscDFQcCcdh"]),
  ("Bengali", [
    "BAybCMucrcBaebicccwbhbbdecjccceibecbfczHDhbbbccbbibibcbebcdCBAfb"]),
  ("Bopomofo", [
    "BBjbbdnbqcRBxdekbnkecbgbHnbjBrEiBgCZLtcKwf"]),
  ("Buginese", [
    "JWaBcccCCKtb"]),
  ("Buhid", [
    "IUncju"]),
  ("Carian", [
    "HbbLZmbcbFGdbDCLqBx"]),
  ("Caucasian_Albanian", [
    "BDsbBsbBsbDTQnCalb"]),
  ("Chakma", [
    "DTmkCKekDTFqCbbs"]),
  ("Cherokee", [
    "BDodbbgcwclcGFuDicgCFJeDc"]),
  ("Common", [
    "aCnBagBaBvbmbcbfxbBfbRhdbkbbdbbjbbbgffcuEwbgbbbYnbIhbTwbCAubPpeGDbmcBhbBfbkbcbhbldlbprBh",
    "ClBmbdcgbBbbrBpdeZqwlvBJsJwYecBgbEbTsxbyckbebbbBaQcbdbnbnbvbUjyBfbBxpmeGfkfDsBfbJToCmBHS",
    "qBaDydBLobocBFHskwvcmbtbeFrbbBgBagBagExhbhkfPmnBzBtCYNbJqgQuGaEmCiJmkBncCkdrichBeeCjIfum",
    "umDjBbhFfDhbCtbccbcccebmbbbhbCnbecibhbBcbebfbbdhbNccLgcByHThCqCyCjBBeBseDwmpcpbpbBlkGsCe",
    "BabcnBsejxgFyBLwerdndEpeDrgmebpmeCeikgBoiBecmecCkNcmocndkfCehpclgjhFrbDyBSUXbbBeDs"]),
  ("Coptic", [
    "HbbWmbdcbbEecEeoPJkEmfhKtbDCPcBc"]),
  ("Cypriot", [
    "DTImdeBtdjCOmgcbbBsbcdbcb"]),
  ("Cypro_Minoan", [
    "DTImcRQkDv"]),
  ("Cyrillic", [
    "BAybCpdbbbbbbcbfbJeLsIVolGebCybExbGApBgCpbBTLkDsBHEccDHPgCkBhb"]),
  ("Devanagari", [
    "BAybCJrDfcBrHIeBnbcBNabBZFrkGkBgBREmk"]),
  ("Dogra", [
    "DOmmCIDckBQIoCi"]),
  ("Duployan", [
    "HbbWtcbbycQIhbFUQlEdfndjhkci"]),
  ("Elbasan", [
    "HbbWrbDTScBo"]),
  ("Ethiopic", [
    "BEcbFRdCvbechbbbecBpbecBhbechbbbecpbCfbecCpcBgdBaJVaxjhbhbhbhbhbhbhbhBVKcgcgcgjhbhEPYfhb",
    "ebcbp"]),
  ("Garay", [
    "CHobobdbDVQuBmdBdic"]),
  ("Georgian", [
    "HbbBVlbEFeBmbbfbcBwEJwBrcdBJmbEUnBmbbfbJzb"]),
  ("Glagolitic", [
    "HbbWpbbbOsbcbJxbEIrbFVibEKrDsSpbBTNfbEOTkhbrchbcbf"]),
  ("Gothic", [
    "HbbWqccbBobDSYoBb"]),
  ("Grantha", [
    "DNtcrcYqoGKabbcBeddcBNabDNRjebicccwbhbcbfbkcccdcbgbfhchdfERrcbb"]),
  ("Greek", [
    "HbbWmccbbbbbkbBubcbBqicebbebbbbdbbbubCloqJNqfByfefDgdMgwcgcBmcgcibbbbbbbBfcCbbpbocgbtcdb",
    "jDqbHsbCAJebBGNiDbrbDAXrCs"]),
  ("Gujarati", [
    "DNtcrcKxdbjbdbwbhbcbfckbdbdcbpecmhhCHNsk"]),
  ("Gunjala_Gondi", [
    "HbbDHkcEANigbcbBlbcbghk"]),
  ("Gurmukhi", [
    "DNtcrcFzdbgeccwbhbcbcbccbbfeccddbhebbhrCHSzk"]),
  ("Gurung_Khema", [
    "DOnbFADeCg"]),
  ("Han", [
    "HbbRIuBabDlmIgBaqbdbnbnbncbgjHfbFsqBgBmjbBwBoCeBxpmBzbDkzkfDsBfbJToCmBFBkCQyiBFBcOccEcBH",
    "rcKwfBQPocmcBLRasLRycFEsCLFcBgGDugIocINqoLBlpXyDQwUwCFyHHzfGFg"]),
  ("Hangul", [
    "GLkJwLJldekbnodgbHnbCbDqEjBfCnBfBTAnBdYtQNsmxeBxOMzcKwfCgBfdgcgcgcd"]),
  ("Hanifi_Rohingya", [
    "CHobobdbBgbFrbDVHjBoik"]),
  ("Hanunoo", [
    "ITsx"]),
  ("Hebrew", [
    "BDvcYyCdiBbegDOVwBabfbbbcbcbk"]),
  ("Hiragana", [
    "SErdekbnqgbbecdDiciDmcCZTgcKwfkbBtcCOUrLbsbBddYMvb"]),
  ("Inherited", [
    "BEdbcbbpdhcbcqbcbsbfbeCGmcGOxBfBDbCcbbbfUecHmBgDFSqqqoBLnbCZQoBucxUydrichBeeBTLHiJg"]),
  ("Javanese", [
    "CMEyDablec"]),
  ("Kaithi", [
    "DOokNXxbBUFekBNMsCpkb"]),
  ("Kannada", [
    "DNtcrcBEonbdbxbkbfcjbdbehcgcbeckbdGAebbcgbxbbbCASxg"]),
  ("Katakana", [
    "BDtbBdbQZtdekbnqgbbecDnedDsJgqIaBvbDkCYWbcKwClCOUaebhbcbbLbdByboe"]),
  ("Kayah_Li", [
    "CMAaBw"]),
  ("Khojki", [
    "EDikCHOikBOBmsbBv"]),
  ("Khudawadi", [
    "DOmcCIDmkBOIgChfk"]),
  ("Latin", [
    "CnBagBaBvbmbcbfxbBfbRhdbkbbdbbjbbbgfBbpbcbbpdhcbcBmbfbenKrcBVecCXkbEOiBmgBxfefnbCsCfbhJw",
    "LrbCnbnbqnDfbCfcgbBbbrBpECtBgPrbBTUmiBaDydCpccbbbivoLqbTtBrbjbeBEDqhBOkBagBaDCfgbBqbjDDN",
    "pBfgg"]),
  ("Limbu", [
    "DOnbFXqBfbmemebdm"]),
  ("Linear_A", [
    "DTItBtBVgLzjwki"]),
  ("Linear_B", [
    "DSYqmbBabtbcbpcoBiEtfdeBtdj"]),
  ("Lisu", [
    "BAybqbRDkcBSFsBwBUMab"]),
  ("Lycian", [
    "MGobDHQrBd"]),
  ("Lydian", [
    "HbbRFtbDEXqBafb"]),
  ("Mahajani", [
    "HbbDHkmCIDckBNUsBn"]),
  ("Malayalam", [
    "DNtcrcBJmnbdbBzbdbgeqcBaFVebxbCASzd"]),
  ("Mandaic", [
    "CJobTrBccb"]),
  ("Manichaean", [
    "CJobDUQxBnem"]),
  ("Masaram_Gondi", [
    "DOmcEAJqhbcbBsdbbcbjik"]),
  ("Meroitic_Hieroglyphs", [
    "MGrbDKHmBg"]),
  ("Modi", [
    "CLSakBPOwCrlk"]),
  ("Mongolian", [
    "JCiBagDlhBrCWabFZtcfeDJFwn"]),
  ("Multani", [
    "DYkkDWAahbbbebpbl"]),
  ("Myanmar", [
    "GBoGeCFUcbGvBfDtBgBPAmu"]),
  ("Nandinagari", [
    "DNtbscBImkGBhbibhbCASrgBQYsicBucl"]),
  ("Newa", [
    "DNtcHKcbbcjbgbbbbbDPOsDobf"]),
  ("Nko", [
    "CHobobdbQaChcdDOWsc"]),
  ("Ol_Onal", [
    "DOmcGYKwBreb"]),
  ("Old_Hungarian", [
    "MGobcbFGdbpbDGEgBznBzhg"]),
  ("Old_Permic", [
    "HbbWmbfdkbOdbDSMuBr"]),
  ("Old_Turkic", [
    "MGobFGfbDFZzCv"]),
  ("Old_Uyghur", [
    "CJobDUSvbBSfBa"]),
  ("Oriya", [
    "DNtcrcPvdbicccwbhbcbfcjcccdhdecbfcsGPebxb"]),
  ("Osage", [
    "BDpbcbgbCybDTLvBkeBk"]),
  ("Phags_Pa", [
    "JCkcbbDCjbFZubBTNxCe"]),
  ("Psalter_Pahlavi", [
    "CJobDUYhshemh"]),
  ("Runic", [
    "IOuDl"]),
  ("Samaritan", [
    "DAuBucpOJqb"]),
  ("Sharada", [
    "DNtbHKfbbbcccbjbcbCATegcbBNWpDs"]),
  ("Shavian", [
    "HbbDUIaBw"]),
  ("Sinhala", [
    "DOmcBOldbsdybjbbchdbegbbbigkcdFRpbDOTqu"]),
  ("Sogdian", [
    "CJobDWIpBq"]),
  ("Sunuwar", [
    "BDocbbjbcbBcbdbECGkBiok"]),
  ("Syloti_Nagri", [
    "DOmcEykCHWiBt"]),
  ("Syriac", [
    "BDrcccbbydhcbbBCdboccbBgbklBabFnobCicdKmlIEfbbb"]),
  ("Tagalog", [
    "ISmwjbvc"]),
  ("Tagbanwa", [
    "IUncBpnbdbc"]),
  ("Tai_Le", [
    "BDocfcdbEZzkDKwBecf"]),
  ("Takri", [
    "DOmcCIDmkBPTuCggk"]),
  ("Tamil", [
    "DNtcrcUucbgddbedcbbbcdcdddmefddbecbgbovGKdbCBBkbBOEfbbbCdcETfBynb"]),
  ("Tangut", [
    "SEaqTbbEQKmbBfJCaiBDoTsj"]),
  ("Telugu", [
    "DNtcrcZqnbdbxbqcjbdbehcbdcbceckhjGEvcbbbbxb"]),
  ("Thaana", [
    "CHoboccbCmkKsByDPGqbkb"]),
  ("Thai", [
    "BAybBabBrbBtbEClCgfBc"]),
  ("Tibetan", [
    "FRsCubBkeBnbBkbpbhecMEve"]),
  ("Tifinagh", [
    "BDqbbbbePZaCehcob"]),
  ("Tirhuta", [
    "DNtcrcHJjbmbpbCASzkBPAcCuik"]),
  ("Todhri", [
    "BDpbcbcbjbbbCwbDTWbCa"]),
  ("Toto", [
    "BAybGZSlBf"]),
  ("Tulu_Tigalari", [
    "EXakGBqbbbCASxgHfbBOJekbbcbbBmbkbbcbbebkbcic"]),
  ("Yezidi", [
    "CHobobdbCmkDWAgBqbdcc"]),
  ("Yi", [
    "SErcfkciIpbBQBcBSvdCdBIIcf"])]

end NodeSieve.Unicode
