import NodeSieve.Unicode.Runs

/-!
# Segmentation properties

The classes of the grapheme cluster, word and sentence break rules, under their
full names.
-/

namespace NodeSieve.Unicode

/-- The classes of `Grapheme_Cluster_Break`. -/
def graphemeBreakRuns : List (String × List String) := [
  ("CR", [
    "nb"]),
  ("Control", [
    "akbcbsDrBhnbCBmbGUrbDAqbccyhBxqDGHjbJgmTUaqBZQueHWxiBTKZlBgDsEyJgFIm"]),
  ("Extend", [
    "BDoEiKphKdBtbbbcbcbbCulBwvqbDxhcgccbeBjbBeBbDnlCgjjbyebjbdbfBrdChjBqybBgCdbbbeiebdhkcBdb",
    "CgbbbceibjbkcBabccCfbececcddbBecdblcCfbefbcebucwgbbCgbbcbeibhdkcBebChbbbmbjbBobdbCdbbdfd",
    "behclcBdbCgbccbbddbehclcBccCfcbbceibjbkcBdbCubebcdbbibDdbchmiDubcjlhCvcBbbbbbbCdobfbcflb",
    "BkjbDyebgbccczcedqenbccgbpbBBbdBKkeBcdBdcBecCmcbhibcljbBtdbbEncBibEodecjbgdIlccbCgbbhbbb",
    "bcigkcbBwBfBxeBwkedBmjmcBgecgCebbcdbbfCeiccFwdbnbhebgbdcHqCmUebHnBhEOcdFlbDsBgVigEbcBSQe",
    "ebkBgcDccKmbdbebzcfbFvcBasnbBmizlbbBsdBwbcecccbBkbCpgccccmbibBvbBzbbdccfcbbBqcibJebcbebB",
    "DZsbBCjqqqOccXhbIsbFtfCMgdbcfeBodebGjcWbeCnfMfcDbeCslBxeEtbCcpBpbcckdBxecchbCjdBkfbiCkbm",
    "cCajbbiecbDrdcegbcbGbbdivcCfcbbbbmbjbohdfCpbcgbbcbbdedbbocDhicdbbxbDdbcgbbcbbcbcJbbcegcb",
    "cBbcDhicbbcEcbbbciDxbbbcebfJzjbcJlbkeebFoeccebBgkBogceibjgcdBunbcPqhbgbbDewchbcbcEsgdbbc",
    "bhbbCucdbbbNjclcCaffdxbHXtbgpQYymddDSafChhBOibCleDdblcBDAxcGYzBucxUwfdgiichBeeFsdCYdCdeB",
    "yibobwfbpCAihbrchbcbfDwbGehOlbCjeToeJucBCihEfhEBgfBSXYuDsEyJg"]),
  ("L", [
    "GLkDsCFOqBd"]),
  ("LF", [
    "kb"]),
  ("LV", [
    "CNDobBbbBbbBbbBbbBbbBbbBbbBbbBbbBbbBbbBbbBbbBbbBbbBbbBbbBbbBbbBbbBbbBbbBbbBbbBbbBbbBbbBb",
    "bBbbBbbBbbBbbBbbBbbBbbBbbBbbBbbBbbBbbBbbBbbBbbBbbBbbBbbBbbBbbBbbBbbBbbBbbBbbBbbBbbBbbBbb",
    "BbbBbbBbbBbbBbbBbbBbbBbbBbbBbbBbbBbbBbbBbbBbbBbbBbbBbbBbbBbbBbbBbbBbbBbbBbbBbbBbbBbbBbbB",
    "bbBbbBbbBbbBbbBbbBbbBbbBbbBbbBbbBbbBbbBbbBbbBbbBbbBbbBbbBbbBbbBbbBbbBbbBbbBbbBbbBbbBbbBb",
    "bBbbBbbBbbBbbBbbBbbBbbBbbBbbBbbBbbBbbBbbBbbBbbBbbBbbBbbBbbBbbBbbBbbBbbBbbBbbBbbBbbBbbBbb",
    "BbbBbbBbbBbbBbbBbbBbbBbbBbbBbbBbbBbbBbbBbbBbbBbbBbbBbbBbbBbbBbbBbbBbbBbbBbbBbbBbbBbbBbbB",
    "bbBbbBbbBbbBbbBbbBbbBbbBbbBbbBbbBbbBbbBbbBbbBbbBbbBbbBbbBbbBbbBbbBbbBbbBbbBbbBbbBbbBbbBb",
    "bBbbBbbBbbBbbBbbBbbBbbBbbBbbBbbBbbBbbBbbBbbBbbBbbBbbBbbBbbBbbBbbBbbBbbBbbBbbBbbBbbBbbBbb",
    "BbbBbbBbbBbbBbbBbbBbbBbbBbbBbbBbbBbbBbbBbbBbbBbbBbbBbbBbbBbbBbbBbbBbbBbbBbbBbbBbbBbbBbbB",
    "bbBbbBbbBbbBbbBbbBbbBbbBbbBbbBbbBbbBbbBbbBbbBbbBbbBbbBbbBbbBbbBbbBbbBbbBbbBbbBbbBbbBbbBb",
    "bBbbBbbBbbBbbBbbBbbBbbBbbBbbBbbBbbBbbBbbBbbBbbBbbBbbBbbBbbBbbBbbBbbBbbBbbBbbBbbBbbBbbBbb",
    "BbbBbbBbbBbbBbbBbbBbbBbbBbbBbbBbbBbbBbbBbbBbbBbbBbbBbbBbbBbbBbbBbbBbbBbbBbbBbbBbbBbbBbbB",
    "bbBbbBbbBbbBbbBbbBbbBbbBbbBbbBbbBbbBbbBbbBbbBbbBbbBbbBbbBbbBbbBbbBbbBbbBbbBbbBbbBbbBbbBb",
    "bBbbBbbBbbBbbBbbBbbBbbBbbBbbBbbBbbBbbBbbBbbBbbBbbBbbBbb"]),
  ("LVT", [
    "CNDpBbbBbbBbbBbbBbbBbbBbbBbbBbbBbbBbbBbbBbbBbbBbbBbbBbbBbbBbbBbbBbbBbbBbbBbbBbbBbbBbbBbb",
    "BbbBbbBbbBbbBbbBbbBbbBbbBbbBbbBbbBbbBbbBbbBbbBbbBbbBbbBbbBbbBbbBbbBbbBbbBbbBbbBbbBbbBbbB",
    "bbBbbBbbBbbBbbBbbBbbBbbBbbBbbBbbBbbBbbBbbBbbBbbBbbBbbBbbBbbBbbBbbBbbBbbBbbBbbBbbBbbBbbBb",
    "bBbbBbbBbbBbbBbbBbbBbbBbbBbbBbbBbbBbbBbbBbbBbbBbbBbbBbbBbbBbbBbbBbbBbbBbbBbbBbbBbbBbbBbb",
    "BbbBbbBbbBbbBbbBbbBbbBbbBbbBbbBbbBbbBbbBbbBbbBbbBbbBbbBbbBbbBbbBbbBbbBbbBbbBbbBbbBbbBbbB",
    "bbBbbBbbBbbBbbBbbBbbBbbBbbBbbBbbBbbBbbBbbBbbBbbBbbBbbBbbBbbBbbBbbBbbBbbBbbBbbBbbBbbBbbBb",
    "bBbbBbbBbbBbbBbbBbbBbbBbbBbbBbbBbbBbbBbbBbbBbbBbbBbbBbbBbbBbbBbbBbbBbbBbbBbbBbbBbbBbbBbb",
    "BbbBbbBbbBbbBbbBbbBbbBbbBbbBbbBbbBbbBbbBbbBbbBbbBbbBbbBbbBbbBbbBbbBbbBbbBbbBbbBbbBbbBbbB",
    "bbBbbBbbBbbBbbBbbBbbBbbBbbBbbBbbBbbBbbBbbBbbBbbBbbBbbBbbBbbBbbBbbBbbBbbBbbBbbBbbBbbBbbBb",
    "bBbbBbbBbbBbbBbbBbbBbbBbbBbbBbbBbbBbbBbbBbbBbbBbbBbbBbbBbbBbbBbbBbbBbbBbbBbbBbbBbbBbbBbb",
    "BbbBbbBbbBbbBbbBbbBbbBbbBbbBbbBbbBbbBbbBbbBbbBbbBbbBbbBbbBbbBbbBbbBbbBbbBbbBbbBbbBbbBbbB",
    "bbBbbBbbBbbBbbBbbBbbBbbBbbBbbBbbBbbBbbBbbBbbBbbBbbBbbBbbBbbBbbBbbBbbBbbBbbBbbBbbBbbBbbBb",
    "bBbbBbbBbbBbbBbbBbbBbbBbbBbbBbbBbbBbbBbbBbbBbbBbbBbbBbbBbbBbbBbbBbbBbbBbbBbbBbbBbbBbbBbb",
    "BbbBbbBbbBbbBbbBbbBbbBbbBbbBbbBbbBbbBbbBbbBbbBbbBbbBbbBb"]),
  ("Prepend", [
    "CHcgIhbBxbOucDcbBRnbDUGkbpbJkcUfbCBlbbbJobCvgBAybRbb"]),
  ("Regional_Indicator", [
    "HGOkBa"]),
  ("SpacingMark", [
    "DKtbCdbcdiebcBycChcgcccCcbCgdCobCgdibbcCbcCibgcccEkbbcddbdCadCjeCjcCgbcbbcBubocChcfdbdCb",
    "cCycghtcClbExbFicClbGvbjczcBsbCSvbhibcNiecdecbgIqcCgbbbvgFpbCfeCmbBebecClbcdbbCbiicGpbvb",
    "CAShccbDkcByqFmbBwbBwcecccEhcccybGbbccfbJdcbcbcbbBLXjbbbExbBtdecElbycChbBwdjbobDpddcGqdB",
    "fcChbbeccccvcDhcpbbcDzdicdbEdcgbbcbbcbJecgecbEjdicbbEfbbcEgbhbKbdjbJofbchbbbFmdieebDgbBd",
    "cCkbPrbobEcbhbcbIffecbbNmcmbBwcicYZadFJgCd"]),
  ("T", [
    "GRwDkCWXnBx"]),
  ("V", [
    "GPcCuCWZwxCERcbde"]),
  ("ZWJ", [
    "MDpb"])]

/-- The classes of `Word_Break`. -/
def wordBreakRuns : List (String × List String) := [
  ("ALetter", [
    "CnBagBaBvbkbcbbbfxbBfbSmgBiEifbccebbgbbdbbbubDfbFjiGkbBmcebbbBpbbEabBsBrBjcbDvbbpchckdcb",
    "pcbBeBdDllbyBhjcebfwebjbdbxzhlfybgrBqCgCcdbsbhkpqeicccwbhbbdedbqbncbdockbigeccwbhbcbcbcB",
    "febbtdqjbdbwbhbcbfdbsbpcxblicccwbhbcbfdbBecbdpbrbbgddbedcbbbcdcdddmwbCaibdbxbqdbBadcbccB",
    "ebeibdbxbkbfdbBfcbcpcrjbdbBpcbqbfdidygfsdybjbbchMbbClibBkBbfKpBmbbfbcBrbMvbechbbbecBpbec",
    "BhbechbbbecpbCfbecCpBlqqDicgdXwcrbBafCxdlhsntosonbdGtDlhfcBibbfCskBfIrxJeBvriCcBenckBsBa",
    "BkBpdkBkclfBrcdBpebgbcdbfHkCmKscgcBmcgcibbbbbbbBfcCbbhbbddbhdecgenfdbhEmbnbqnDxbebckbbdf",
    "gbbbbbbeblceffebrBpBFhCaCRuIvgedcmBmbbfbcCehbqxjhbhbhbhbhbhbhbhDcbSbbCbcHsBrbDqrBgBPToBS",
    "vCpBucKjdqkcuBvqBfcDcyHqccbbbivqbdbebxBdCaoByCkgdbbclBckxzBdhBvBcbBwBpxdbiFslhdmgcgcgjhb",
    "hbCggElBdQNsmxeBxNGuhmfCeDuBhNzsCmcCcBomEmfbFfBkBagBaCrBfdgcgcgcdBjmbBabtbcbpcoBiEtCrCbK",
    "hBddBxBvBgnBefBmkBecBkeibfBqGcsBkeBkeBoiCamlbpbhbcblbpbhbcdCamLzjwkiygbBqbjCrgcbbBsbcdbc",
    "xkxjBfCntbckwkBaCsCegcCmbpebdbBdBqBddBdBjibBcBbCckwktnsEgCvCdBznBznBkBmBcjxJqBqgcqdChBdk",
    "biwBqsBuvBbxmCbCfccbnBtBgzBaBkBdbcbiBjdbmBwoevbbbBjsbztcClhbbbebpbkhBvBmicccwbhbcbfdbsbm",
    "fBekbbcbbBmbbzbbbBsCbseudBeBwucbbHcBvBpeBkBwubChBrnbMpBsEmCmBficbcibcbypbbbDqicBnqbbbBcb",
    "kBohbvblButbsCvHrBhBfjbBlrbBxBeEihbcbBmvbzgbcbBgobMptpbbnbBiEubDbBJmDyEhrHoDXkDtpBPgrgzF",
    "XrfWlKDdBeCPuVxhBfrDbrBesBwqeBfvftQqBtIdCmEyCxfbConCmcbbBCVkEdfndjhkIWkDhbCtbccbcccebmbb",
    "bhbCnbecibhbBcbebfbbdhbNcczbzbBfbzbBfbzbBfbzbBfbzbiCSyBfggKbCkFqBtkhqbMjBesBsSqBcIuBecbT",
    "bhbebcbpbHpChCqhbBUiebBbbcbbcbbkbebbbbgbebbbbbbdbcbbcbbbbbbbbbbcbbcebhbebebbbkbrfdbfbrYe",
    "BagBagBa"]),
  ("CR", [
    "nb"]),
  ("Double_Quote", [
    "Bib"]),
  ("Extend", [
    "BDoEiKphKdBtbbbcbcbbCulBwvqbDxhcgccbeBjbBeBbDnlCgjjbyebjbdbfBrdChjBqybBhCcdbsbhkcBddCebb",
    "hcccdjbkcBabcdCebbfeccddbBecdbldCebbibdbducwgbdCebbhcccdhdkcBebChfddbejbBofCdbbhbdbehclc",
    "BddCebbhbdbehclcpbmeCdcbhbdbejbkcBddCsbegbbbiscCjbchmiDubcjlhCvcBbbbbbbecBxubcflbBkjbDwu",
    "xeedbdchdenmbbkeBBbdBKkeBcdBdcBecCmBgjbBtdbbEncBibEomemIlfCfkbBdcbBwBfBxfBvrBmjmdBenCeoB",
    "wuFwdbvebgbcdHqCmUebHnBhEOcdFlbDsBgVigEbcBSQeebkBgcDccKmbdbebxfebDfcBysBasnbBmiznBseBvoB",
    "kbCpombicBtdBybbdccfcbbBpffcJcibcBDZsbBCjqqqOccXhbIsbFtfCMgdbcfeBodebGjcWbeCnfMfcDbeCslB",
    "xeEsdCbpBpbcckeBtlhbCjdBkoqcBsbmdBwoiebcDomgbcbGbmveCdcbhcccdjbkcchdfCpjbbcbbebfbbocDesx",
    "bDduJbhcjBbcDerEcnDxpJwpJlgbccebbbcFlhchdbBckBohbeibjlBuqPpibiDewboEsgdbbcbhbbCofbcbfNje",
    "jcbbBwhdfxbHXtbgpQYysDSafChhBOibbCdheDdblcBDAxcGYzBucxUwfdgiichBeeFsdCYdCdeByibobwfbpCAi",
    "hbrchbcbfDwbGehOlbCjeToeJucBCihEfhEBgfBSXYuDsEyJg"]),
  ("ExtendNumLet", [
    "DrbMBfbpctbDGAocydJfb"]),
  ("Format", [
    "GrbCBmbGUrbDAtcBafBxfbkDGHjbJpdTUaqBZQueHWxiBTKZmb"]),
  ("Hebrew_Letter", [
    "CFgBbeeDOVybbkbnbfbbbcbcbk"]),
  ("Katakana", [
    "SGnfDxcdDnbeJgqIaBvbDkCZHeCeCOUcebhbcbbLbdByboe"]),
  ("LF", [
    "kb"]),
  ("MidLetter", [
    "CgbEubBBrbSdbFsbJXybDGBbbCnbHob"]),
  ("MidNum", [
    "BsbobBGcbUcbFacDqbPfbJFfbDFZvbdbChbdbHbbob"]),
  ("MidNumLet", [
    "BubMCfckbDGDpbGybgb"]),
  ("Newline", [
    "lcEqbLZmc"]),
  ("Numeric", [
    "BwkCEwgDmkbbEjbskHqkHqcDcbFbkEokEokEokEokEokEokEokEokEokDskEokCskKskCskCTqkBmkLokEylGjkg",
    "kHakDikFekgkCAEokBAckBmkHqkwkDikPqkBFMckCCkkDFykgkBEqkCzbpbBikCikFokKskNekEokOkkDykguCyk",
    "QgkDykZmkDikJmkCskQgkYYgkDMckDikFekUokBKDykECqByDNckQgkTikJnkBGvkHBak"]),
  ("Regional_Indicator", [
    "HGOkBa"]),
  ("Single_Quote", [
    "Bnb"]),
  ("WSegSpace", [
    "BgbIMhbDPnhbdDgbFXwb"]),
  ("ZWJ", [
    "MDpb"])]

/-- The classes of `Sentence_Break`. -/
def sentenceBreakRuns : List (String × List String) := [
  ("ATerm", [
    "BubMCrbDGDpbHfb"]),
  ("CR", [
    "nb"]),
  ("Close", [
    "BibedBxbbbBdbbbBtbpbFMseCUncDPjizckcCccocYjeBdcBPgghoDbcBfkPnwCleBgcBNmoocckybsiQlkcibdC",
    "ZRqcIhcBcqccqgGncBxbbbBdbbbbcbcDPOsd"]),
  ("Extend", [
    "BDoEiKphKdBtbbbcbcbbCulBwvqbDxhcgccbeBjbBeBbDnlCgjjbyebjbdbfBrdChjBqybBhCcdbsbhkcBddCebb",
    "hcccdjbkcBabcdCebbfeccddbBecdbldCebbibdbducwgbdCebbhcccdhdkcBebChfddbejbBofCdbbhbdbehclc",
    "BddCebbhbdbehclcpbmeCdcbhbdbejbkcBddCsbegbbbiscCjbchmiDubcjlhCvcBbbbbbbecBxubcflbBkjbDwu",
    "xeedbdchdenmbbkeBBbdBKkeBcdBdcBecCmBgjbBtdbbEncBibEomemIlfCfkbBdcbBwBfBxfBvrBmjmdBenCeoB",
    "wuFwdbvebgbcdHqCmUecHmBhEOcdFlbDsBgVigEbcBSQeebkBgcDccKmbdbebxfebDfcBysBasnbBmiznBseBvoB",
    "kbCpombicBtdBybbdccfcbbBpffcJcibcBDZsbBCjqqqOccXhbIsbFtfCMgdbcfeBodebGjcWbeCnfMfcDbeCslB",
    "xeEsdCbpBpbcckeBtlhbCjdBkoqcBsbmdBwoiebcDomgbcbGbmveCdcbhcccdjbkcchdfCpjbbcbbebfbbocDesx",
    "bDduJbhcjBbcDerEcnDxpJwpJlgbccebbbcFlhchdbBckBohbeibjlBuqPpibiDewboEsgdbbcbhbbCofbcbfNje",
    "jcbbBwhdfxbHXtbgpQYysDSafChhBOibbCdheDdblcBDAxcGYzBucxUwfdgiichBeeFsdCYdCdeByibobwfbpCAi",
    "hbrchbcbfDwbGehOlbCjeToeJucBCihEfhBTCAfDsEyJg"]),
  ("Format", [
    "GrbCBmbJibGLibDAqbccBafBxfbkDGHjbJpdTUaqBZQueHWxiBTKZmb"]),
  ("LF", [
    "kb"]),
  ("Lower", [
    "DtBaBvbkbebBkybibbbbbbbbbbbbbbbbbbbbbbbbbbbbbbbbbbbbbbbbbbbbbbbbbbbbbbbcbbbbbbbbbbbbbbbc",
    "bbbbbbbbbbbbbbbbbbbbbbbbbbbbbbbbbbbbbbbbbbbbbbcbbbbdcbbbcbdcebcbddcbcbbbbbcbbcbbcbdbbbcc",
    "cdgbcbcbbbbbbbbbbbbbbbbcbbbbbbbbbbbbbbbbbccbbbdbbbbbbbbbbbbbbbbbbbbbbbbbbbbbbbbbbbbbbbbb",
    "bbbbbbbbbbbbbbbbbhcbccbbebbbbbbbbCrbBkhcBefFkbbbdbcesbBbBjbcddbbbbbbbbbbbbbbbbbbbbbbbfbb",
    "cbccBzBwbbbbbbbbbbbbbbbbbbbbbbbbbbbbbbbbbbjbbbbbbbbbbbbbbbbbbbbbbbbbbbbbbbbbbbbbbbbbbbbb",
    "bbbbbbbbcbbbbbbbbbbbbcbbbbbbbbbbbbbbbbbbbbbbbbbbbbbbbbbbbbbbbbbbbbbbbbbbbbbbbbbbbbbbbbbb",
    "bbbbbbbbbbbbbbbbbbbbbbbbbbbbbbBwBpEItbBDjgDFujbbEnHkCnbbbbbbbbbbbbbbbbbbbbbbbbbbbbbbbbbb",
    "bbbbbbbbbbbbbbbbbbbbbbbbbbbbbbbbbbbbbbbbbbbbbbbbbbbbbbbbbbbbbbbbbbbbbbbbbbbbbbbbbbbbbbbb",
    "bbbbbbbbbbbbbbbbbbbbbbbbbbjbbbbbbbbbbbbbbbbbbbbbbbbbbbbbbbbbbbbbbbbbbbbbbbbbbbbbbbbbbbbb",
    "bbbbbbbbbbbbbbbbbbbbbbbbbbbbbbbbbbbbjigkiiiigkiiiiociiiiiifbcgbddbciecciikdbcErbnbqnEfbd",
    "cdbBbbebebccieebBhqebBGlBaCTqBwbbdcbbbbbbebbcbidbbbbbbbbbbbbbbbbbbbbbbbbbbbbbbbbbbbbbbbb",
    "bbbbbbbbbbbbbbbbbbbbbbbbbbbbbbbbbbbbbbbbbbbbbbbbbbbbbbbbbbchbbbebmBmbbfbBTWdbbbbbbbbbbbb",
    "bbbbbbbbbbbbbbbbbbbbbbbbbbbbbbbbbtbbbbbbbbbbbbbbbbbbbbbbbbbbdFdbbbbbbbbbbbbdbbbbbbbbbbbb",
    "bbbbbbbbbbbbbbbbbbbbbbbbbbbbbbbbbbbbbbbbbbbbbbbbbkbbbbcbbbbbbbbbebbbcbbdbbbbbbbbbbbbbbbb",
    "bbbbfbfbbbbbbbbbbbbbbbebbbcbdbbbbbbbbbbbwdbbbdBFpBrbogDcBEAihmfBOzBaBVhBoFgBkFzlbpbhbcRj",
    "bcdbBqbjBXlBzEvwEGoBgBGJwBgBMMkBaBahbsBaBaBaebbbhblBaBaBaBaBaBaBaBaBaBaBaBaBaBaBaBaBaBcB",
    "czbgBazbgBazbgBazbgBazbgbbCSykbuggKbCkDHsBi"]),
  ("Numeric", [
    "BwkCEwgDmkbcEibskHqkHqcDcbFbkEokEokEokEokEokEokEokEokEokDskEokCskKskCskCTqkBmkLokEylGjkg",
    "kHakDikFekgkCAEokBAckBmkHqkwkDikPqkBFMckCCkkDFykgkBEqkCzbpbBikCikFokKskNekEokOkkDykguCyk",
    "QgkDykZmkDikJmkCskQgkYYgkDMckDikFekUokBKDykECqByDNckQgkTikJnkBGvkHBak"]),
  ("OLetter", [
    "RbbeeIabBkhgmBabbbFdbSqbEoBbefBsBrBjcbDvbbpchckdcbqbbBeBdDllbyBhjcebfwebjbdbxzhlfybgrBqC",
    "gCcdbsbhkpqeicccwbhbbdedbqbncbdockbigeccwbhbcbcbcBfebbtdqjbdbwbhbcbfdbsbpcxblicccwbhbcbf",
    "dbBecbdpbrbbgddbedcbbbcdcdddmwbCaibdbxbqdbBadcbccBebeibdbxbkbfdbBfcbcpcrjbdbBpcbqbfdidyg",
    "fsdybjbbchCgBwbcmhCgcbbbfbybbbkbcjbcfbbveBgbClibBkBbfElBrubqgeedbdchdenmbCnBrcMubechbbbe",
    "cBpbecBhbechbbbecpbCfbecCpBlqEjXwcrbBafCxdlhsntosonbdpCaBjbebCpDlhfcBibbfCskBfBxBecflBse",
    "BaCcxjCbDebDpBvriCcBenckBsBaBkBpdkBksBrcdBpebgbcdbBPqeCtdceEKtCehbqxjhbhbhbhbhbhbhbhDcbS",
    "bdzjhfcfeDigdbDmbefBrbDqrBgBwqTsJToCmBGUfCpBucKjdqkcCobqbBgDcBnjEabgbDzbdhbdbebxBdCaoByC",
    "kgdbbclBckxzBdhBvBcbqfbkkfbBpxdbiuxdbdBybbdccfcbbbydclhdmgcgcgjhbhFpBjBdQNsmxeBxMNcOccEc",
    "CpbbkbnbfbbbcbcbEeBhNzsCmcCcBomEmfbFfEbCecBfdgcgcgcdBjmbBabtbcbpcoBiEtCrCbKhBddBxBvBgnBe",
    "fBmkBecBkeibfEsDaDuBoiCaDoCamLzjwkizcEvgcbbBsbcdbcxkxjBfCntbckwkBaCsCegcCmbpebdbBdBqBddB",
    "dBjibBcBbCckwktnsEgCvHbBkBmgBfbKmBqgcqdChBdkbiwBqsBuvBbxmCbCfccbnBtBgzBaBkBdbcbiBjdbmBwo",
    "evbbbBjsbztcClhbbbebpbkhBvBmicccwbhbcbfdbsbmfBekbbcbbBmbbzbbbBsCbseudBeBwucbbHcBvBpeBkBw",
    "ubChBrnbCtBbBlhHdBsIdicbcibcbypbbbDqicBnqbbbBcbkBohbvblButbsCvHrBhBfjbBlrbBxBeEihbcbBmvb",
    "zgbcbBgobMptpbbnbBiEubDbBJmDyEhrHoDXkDtpBPgrgzFXrfWlKDdBeCPuVxhBfrDbrBesBwqeBfvftQqBtPnC",
    "xfbConCmcbbBcJCaiBVqBpkNFrebhbcbLfpbBddcboeiPgDKuEdfndjhkNBcbThBtkhqbMjBesBsSqBcIuBecbTb",
    "hbebcbpbHpFebBUiebBbbcbbcbbkbebbbbgbebbbbbbdbcbbcbbbbbbbbbbcbbcebhbebebbbkbrfdbfbrGOaCLF",
    "cBgGDugIocINqoLBlpXyDQwUwCFyHHzfGFg"]),
  ("SContinue", [
    "BscmcBGcbSkbGscSwbGBxbfbDBecGAubDAAwcbcBccBdccccbkbGmcmcCub"]),
  ("STerm", [
    "BhbBdbCAbbFrdGybBrdJmbCjbbbdcLhcCPwcBEkbecBDtbHqcGbcBtbfbMccNqeGgckcccBddHfcCncBKucjdEUx",
    "dLubnbwcQnbBSHwbKkcItbdbOscDicDrbFwcFrdFocJpbBFCwbccClcGnbBdbCnbEDwcBXdfBseHhcEneExdEzcg",
    "bqcDkcbcEebLmcEncOjcfpEbcJpdTxbbbJrcDjcQecBAqcCwcBCMbcFdbCnclbVhcLkbBDOgbLImb"]),
  ("Sep", [
    "FdbLZmc"]),
  ("Sp", [
    "jbbctbExbIHjbDPnlBkbBvbFXwb"]),
  ("Upper", [
    "CnBaDxxbhBhbbbbbbbbbbbbbbbbbbbbbbbbbbbbbbbbbbbbbbbbbbbbbbbbbbbbbbbcbbbbbbbbbbbbbbbcbbbbb",
    "bbbbbbbbbbbbbbbbbbbbbbbbbbbbbbbbbbbbbbbbbcbbbbdcbbbcbdcebcbddcbcbbbbbcbbcbbcbdbbbcdbhcbc",
    "bcbbbbbbbbbbbbbbbbcbbbbbbbbbbbbbbbbbccbbbdbbbbbbbbbbbbbbbbbbbbbbbbbbbbbbbbbbbbbbbbbbbbbb",
    "bbbbbbbbbbbbhcbccbbebbbbbbbbLdbbbdbibgbbdbbbcbrbjBjbcddbbbbbbbbbbbbbbbbbbbbbbbfbcbbccBzB",
    "wbbbbbbbbbbbbbbbbbbbbbbbbbbbbbbbbbjbbbbbbbbbbbbbbbbbbbbbbbbbbbbbbbbbbbbbbbbbbbbbbbbbbbbb",
    "bcbbbbbbbbbbbbcbbbbbbbbbbbbbbbbbbbbbbbbbbbbbbbbbbbbbbbbbbbbbbbbbbbbbbbbbbbbbbbbbbbbbbbbb",
    "bbbbbbbbbbbbbbbbbbbbbbcBmEHdBmbbfbBBuDiDGlbOkbbbbbbbbbbbbbbbbbbbbbbbbbbbbbbbbbbbbbbbbbbb",
    "bbbbbbbbbbbbbbbbbbbbbbbbbbbbbbbbbbbbbbbbbbbbbbbbbbbbbbbbbbbbbbbbbbbbbbbbbbbbbbbbbbbbbbbb",
    "bbbbbbbbbbbbbbbbbbjbbbbbbbbbbbbbbbbbbbbbbbbbbbbbbbbbbbbbbbbbbbbbbbbbbbbbbbbbbbbbbbbbbbbb",
    "bbbbbbbbbbbbbbbbbbbbbbbbbbbbjiigkiiiiglbbbbbbbiiyiiiiiiflflemflfKbbebddcdcbdfgbbbbbbecek",
    "cfbBaqtbBFmBaCSuBwBwbbdcbbbbbbebbcbidbbbbbbbbbbbbbbbbbbbbbbbbbbbbbbbbbbbbbbbbbbbbbbbbbbb",
    "bbbbbbbbbbbbbbbbbbbbbbbbbbbbbbbbbbbbbbbbbbbbbbbibbbebBTYjbbbbbbbbbbbbbbbbbbbbbbbbbbbbbbb",
    "bbbbbbbbbbbbbbtbbbbbbbbbbbbbbbbbbbbbbbbbbbFfbbbbbbbbbbbbbdbbbbbbbbbbbbbbbbbbbbbbbbbbbbbb",
    "bbbbbbbbbbbbbbbbbbbbbbbbbbbbbbbkbbbbcbbbbbbbbebbbcbbbdbbbbbbbbbbbbbbbbbbbbfbfbbbbbbbbbbb",
    "bbbbebbbcdbfbbbbbbbybBHAhBaBUzBoFgBkGalbpbhbcCQcBzGbwEGoBgBGJwBgBMMqBaBaBaBaBaBabbccbccc",
    "ebiBaBaBacbecibhBbcbebfbbdhBbBaBaBaBaBaBaBaBaBaBaBaBezBhzBhzBhzBhzBhbGNlBiDBiBagBagBa"])]

end NodeSieve.Unicode
