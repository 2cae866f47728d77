import NodeSieve.Unicode.Runs

/-!
# General categories

One row of runs for each assigned general category, under its two-letter name.
The unassigned code points are the ones no row holds, and surrogates are not
characters, so neither has a row.
-/

namespace NodeSieve.Unicode

/-- The characters of each assigned general category. -/
def generalCategoryRuns : List (String × List String) := [
  ("Lu", [
    "CnBaDxxbhBhbbbbbbbbbbbbbbbbbbbbbbbbbbbbbbbbbbbbbbbbbbbbbbbbbbbbbbbcbbbbbbbbbbbbbbbcbbbbb",
    "bbbbbbbbbbbbbbbbbbbbbbbbbbbbbbbbbbbbbbbbbcbbbbdcbbbcbdcebcbddcbcbbbbbcbbcbbcbdbbbcdbhbcb",
    "cbcbbbbbbbbbbbbbbbcbbbbbbbbbbbbbbbbbcbcbbdbbbbbbbbbbbbbbbbbbbbbbbbbbbbbbbbbbbbbbbbbbbbbb",
    "bbbbbbbbbbbbhcbccbbebbbbbbbbLdbbbdbibgbbdbbbcbrbjBjbcddbbbbbbbbbbbbbbbbbbbbbbbfbcbbccBzB",
    "wbbbbbbbbbbbbbbbbbbbbbbbbbbbbbbbbbjbbbbbbbbbbbbbbbbbbbbbbbbbbbbbbbbbbbbbbbbbbbbbbbbbbbbb",
    "bcbbbbbbbbbbbbcbbbbbbbbbbbbbbbbbbbbbbbbbbbbbbbbbbbbbbbbbbbbbbbbbbbbbbbbbbbbbbbbbbbbbbbbb",
    "bbbbbbbbbbbbbbbbbbbbbbcBmEHdBmbbfbBBuDiDGlbgBrcdMibbbbbbbbbbbbbbbbbbbbbbbbbbbbbbbbbbbbbb",
    "bbbbbbbbbbbbbbbbbbbbbbbbbbbbbbbbbbbbbbbbbbbbbbbbbbbbbbbbbbbbbbbbbbbbbbbbbbbbbbbbbbbbbbbb",
    "bbbbbbbbbbbbbbbbbbbbbbbjbbbbbbbbbbbbbbbbbbbbbbbbbbbbbbbbbbbbbbbbbbbbbbbbbbbbbbbbbbbbbbbb",
    "bbbbbbbbbbbbbbbbbbbbbbbbbbbbbbbbbjiigkiiiiglbbbbbbbiiCuemememfleKcbebddcdcbdfgbbbbbbecek",
    "cfbCjbDZgBwBwbbdcbbbbbbebbcbidbbbbbbbbbbbbbbbbbbbbbbbbbbbbbbbbbbbbbbbbbbbbbbbbbbbbbbbbbb",
    "bbbbbbbbbbbbbbbbbbbbbbbbbbbbbbbbbbbbbbbbibbbebBTYjbbbbbbbbbbbbbbbbbbbbbbbbbbbbbbbbbbbbbb",
    "bbbbbbbtbbbbbbbbbbbbbbbbbbbbbbbbbbbFfbbbbbbbbbbbbbdbbbbbbbbbbbbbbbbbbbbbbbbbbbbbbbbbbbbb",
    "bbbbbbbbbbbbbbbbbbbbbbbbkbbbbcbbbbbbbbebbbcbbbdbbbbbbbbbbbbbbbbbbbbfbfbbbbbbbbbbbbbbbebb",
    "bcdbfbbbbbbbybBHAhBaBUzBoFgBkGalbpbhbcCQcBzGbwEGoBgBGJwBgBMMqBaBaBaBaBaBabbccbcccebiBaBa",
    "BacbecibhBbcbebfbbdhBbBaBaBaBaBaBaBaBaBaBaBaBezBhzBhzBhzBhzBhbGNlBi"]),
  ("Ll", [
    "DtBaCgbBpybibbbbbbbbbbbbbbbbbbbbbbbbbbbbbbbbbbbbbbbbbbbbbbbbbbbbbbbcbbbbbbbbbbbbbbbcbbbb",
    "bbbbbbbbbbbbbbbbbbbbbbbbbbbbbbbbbbbbbbbbbbcbbbbdcbbbcbdcebcbddcbcbbbbbcbbcbbcbdbbbcccdgb",
    "cbcbbbbbbbbbbbbbbbbcbbbbbbbbbbbbbbbbbccbbbdbbbbbbbbbbbbbbbbbbbbbbbbbbbbbbbbbbbbbbbbbbbbb",
    "bbbbbbbbbbbbbhcbccbbebbbbbbbbCrbBbHlbbbdbddsbBbBjbcddbbbbbbbbbbbbbbbbbbbbbbbfbbcbccBzBwb",
    "bbbbbbbbbbbbbbbbbbbbbbbbbbbbbbbbbjbbbbbbbbbbbbbbbbbbbbbbbbbbbbbbbbbbbbbbbbbbbbbbbbbbbbbc",
    "bbbbbbbbbbbbcbbbbbbbbbbbbbbbbbbbbbbbbbbbbbbbbbbbbbbbbbbbbbbbbbbbbbbbbbbbbbbbbbbbbbbbbbbb",
    "bbbbbbbbbbbbbbbbbbbbbBwBpEHbBrcdBDggDFujbbEnBsClnbBiDybbbbbbbbbbbbbbbbbbbbbbbbbbbbbbbbbb",
    "bbbbbbbbbbbbbbbbbbbbbbbbbbbbbbbbbbbbbbbbbbbbbbbbbbbbbbbbbbbbbbbbbbbbbbbbbbbbbbbbbbbbbbbb",
    "bbbbbbbbbbbbbbbbbbbbbbbbbbjbbbbbbbbbbbbbbbbbbbbbbbbbbbbbbbbbbbbbbbbbbbbbbbbbbbbbbbbbbbbb",
    "bbbbbbbbbbbbbbbbbbbbbbbbbbbbbbbbbbbbjigkiiiigkiiiiociiiiiifbcgbddbciecciikdbcKobdcdbBbbe",
    "bebccieebCbbEBbBwbbdcbbbbbbebbcbgfbbbbbbbbbbbbbbbbbbbbbbbbbbbbbbbbbbbbbbbbbbbbbbbbbbbbbb",
    "bbbbbbbbbbbbbbbbbbbbbbbbbbbbbbbbbbbbbbbbbbbbchbbbebmBmbbfbBTWdbbbbbbbbbbbbbbbbbbbbbbbbbb",
    "bbbbbbbbbbbbbbbbbbbtbbbbbbbbbbbbbbbbbbbbbbbbbbbFfbbbbbbbbbbbbdbbbbbbbbbbbbbbbbbbbbbbbbbb",
    "bbbbbbbbbbbbbbbbbbbbbbbbbbbbbbbbbbbbbibbbbcbbbbbbbbbebbbcbbdbbbbbbbbbbbbbbbbbbbbfbfbbbbb",
    "bbbbbbbbbbebbbcbdbbbbbbbbbbbBabdbBFpBrfjhDcBEAihmfBOzBaBVhBoFgBkFzlbpbhbcCRbBzEvwEGoBgBG",
    "JwBgBMMkBaBahbsBaBaBaebbbhblBaBaBaBaBaBaBaBaBaBaBaBaBaBaBaBaBaBcBczbgBazbgBazbgBazbgBazb",
    "gbbCSykbuggDUdBi"]),
  ("Lt", [
    "RlbcbcbBmbLFhiiiiimbpbBvb"]),
  ("Lm", [
    "BAmsemofhbbbFdbfbSkbIwbGicKjcebBfbjbdbGebGlbBVobExbVtbCPmbEdbXnbRwgGsClnbBiBlBAnbnbqnEMx",
    "cJhbHjbSbbBrffbDtcDpdBQBubBWcgKkbEkbBccErjDcbxbEbddcSbbwbFhbEebvcDzejbBFVibBtcCZogbBqbjC",
    "CxbBgbBJNseTodBocVenCmcbbYGqebhbcSGnCkHthBKfbBRbb"]),
  ("Lo", [
    "GobpbJwbeeIabBFvBbeeBtBgbkBjcbDvbbyckdcbqbbBeBdDllbyBhvwBqzhlfybgrBpChCcdbsbhkqpeicccwbh",
    "bbdedbqbncbdockbigeccwbhbcbcbcBfebbtdqjbdbwbhbcbfdbsbpcxblicccwbhbcbfdbBecbdpbrbbgddbedc",
    "bbbcdcdddmwbCaibdbxbqdbBadcbccBebeibdbxbkbfdbBfcbcpcrjbdbBpcbqbfdidygfsdybjbbchCgBwbcmgC",
    "hcbbbfbybbbkbcjbcfxeBgbClibBkBbfElBrubqgeedbdchdenmbEjMrbechbbbecBpbecBhbechbbbecpbCfbec",
    "CpBlqEjXwcrbBafCxgihsntosonbdpCaBobCpBjbCbhfcBibbfCskBfBxBecflBseBaCcxjCbGuBvriCcBenckBs",
    "BaBkBpdkBeEjebgbcdbBPqeENvCeyxjhbhbhbhbhbhbhbhVfbCbbeDiibbDmebfBrbDqrBgBwqTsJToCmBFCfbBR",
    "zCpBoiKieqkcCobBxCsGnbDzbdhbdbebxBdCaoByCkgdbbclBckxzBdhBvBtfcjkfbBpxdbiuqbgdbdBybbdccfc",
    "bbbycdlhbogcgcgjhbhFpBjBdQNsmxeBxMNcOccEcCpbbkbnbfbbbcbcbEeBhNzsCmcCcBomEmfbFfEbkbBtcBfd",
    "gcgcgcdBjmbBabtbcbpcoBiEtOzBddBxBvBgnubigBmkBecBkeiEyDaDuBoiCaDoCamLzjwkiFwgcbbBsbcdbcxk",
    "xjBfCntbckwkBaCsCegcCmbpebdbBdBqBddBdBjibBcBbCckwktnsEgCvHbBkBmebbLsBqgcqdChBdkbiwBqsBuv",
    "BbxmCbCfccbnBtBgzBaBkBdbcbiBjdbmBwoevbbbBjsbztcClhbbbebpbkhBvBmicccwbhbcbfdbsbmfBekbbcbb",
    "BmbbzbbbBsCbseudBeBwucbbHcBvBpeBkBwubChBrnbCtBbBlhHdBsIdicbcibcbypbbbDqicBnqbbbBcbkBohbv",
    "blButbsCvHrBhBfjbBlrbBxBeEihbcbBmvbzgbcbBgobMptpbbnbBiEubDbBJmIwHoDXkDtpBPgrgzFXrfWlKDdB",
    "eCPuVxhBfrDbrBesBwBzvftQtBoPpCxfbGtJCaiBVqBpkNGhLfpbBddcboeiPgDKuEdfndjhkNBcbThBtBhbMjBe",
    "sBsSqBbIvBecbTbhbebcbpbHpBZnebBbbcbbcbbkbebbbbgbebbbbbbdbcbbcbbbbbbbbbbcbbcebhbebebbbkbr",
    "fdbfbrGOaCLFcBgGDugIocINqoLBlpXyDQwUwCFyHHzfGFg"]),
  ("Mn", [
    "BDoEiKpfKfBtbbbcbcbbCulBwvqbDxhcgccbeBjbBeBbDnlCgjjbyebjbdbfBrdChjBqybBgCdbbbeiebdhkcBdb",
    "CgbeeibucBabccCfbececcddbBecdblcCfbefbcebucwgbbCgbcbbeibhclcBebCjbmbBybdbCdbbdfdbehclcBd",
    "bCgbcbgbfcucBccCfceeibucBdbCubhdbbDmbchmiDubcjlhCvcBbbbbbbCdobfbcflbBkjbDyebgbccczcedqen",
    "bccgbpbBBbdBKkdBdcBecBecCmcbhibcljbBtdbbEncBibEodecjbgdIlccbCgbbhbbbbcigkcbBwobqBxeBwbbf",
    "bbfbBojmcBgeccbdCebbcdbbdCgiccFwdbnbhebgbdcHqCmBBsnebdmEOcdFlbDsBgVieEdcBSQebekBgcDccKmb",
    "dbebzcfbFvcBasnbBmizlBudBwbceccBnbCpgccccmbibBvbBzbbdccfcbbBqcibJebcbebBDZsbBCjqqqBLlbIs",
    "bFtfCMgdbcfeBodebGjcWbeCnfMfcDbeCslBxeEtbCcpBpbcckdBxecchbCjdBkfbiCkbmcCajkecbDrdcbbcgbc",
    "bGbbdivcCfcdbBlhdfCsgnbbbbbocDhicdbbxbDggbbecbcJeegcbcBbcDhicbbcEcbbbcgbbDxbbbcebfJzjbcJ",
    "wcbbebFoeccebBgkBogceibjgcdBunbcPqhbgbbDewchbcbcEsgdbbcbhbbCucdbbbNjclcCaffbbbxbHXtbgpQY",
    "ymddDSafChhBOibCleDdbBDBkcGYzBucxUydrichBeeFsdCYdCdeByibobwfbpCAihbrchbcbfDwbGehOlbCjeTo",
    "eJucBCihEfhBTCIvJg"]),
  ("Mc", [
    "DKtbCdbcdiebcBycCgdgccckbBrbCgdCobCgdibbcCbcCgbbbgccckbDycbcddbdkbBpdCjeCjcCgbbfccbcjcBc",
    "bocCgdfdbdkbBqcCxdgiscMscClbGpcebgbcczckdchvccgcbkdCLsbBebEzbhibcNiecdecbgIqcCgbbbjbbcig",
    "FpbBwbfbbfbcCjbBebeccbCibcdbbdcBwiicGpbvbHHecBTLbccbDkcByqFmcBvbBwceccdEgcccybBtbbbEfbcc",
    "fbJdcbcbcbbBLXjbbbExbBtdecElbycChbBwdjcnbDpddcbbGodBfcCgcbecccdjbkcDgdhbcbbebcbbDxdicdbE",
    "cdgbbecbJddgecbEjdicbbEfbbcgbDzbbcebKbdjbJngbcebcbbbFmdieebDgbBdcCkbPrbobEcbhbcbIffecbbN",
    "mcmbBwcicbbYYydFJgCdEacBKXncgg"]),
  ("Me", [
    "BSqcIKqbCIgebdBYOxd"]),
  ("Nd", [
    "BwkCIokFekHqkPwkEokEokEokEokEokEokEokEokEokDskEokCskKskCskCTqkBmkLokEykGkkgkHakDikFekgkC",
    "AEokBAckBmkHqkwkDikPqkBFMckCCkkDFykgkBEqkEykCikFokKskNekEokOkkDykguCykQgkDykZmkDikJmkCsk",
    "QgkYYgkDMckDikFekUokBKDykECqByDNckQgkTikJnkBGvkHBak"]),
  ("Nl", [
    "IRudDYtBjceFMsbzjodBSYlkBIFgCbRsbibFefMEsEh"]),
  ("No", [
    "GwcfbcdDMrgOmgEqdFdhIjhrjQrkBPluBRvkSmbCMvbdggkHqqBpbBByCiDawYgBeCBhbBTceFikBeibpBgkBnpB",
    "SMigBHQnBtCnercNdBbBkeBZgizhBnjCxfwgGeccqcBuCmjCacBedCxfEaiyiBphMsgNoBfGckBqeEihFeuOpuBZ",
    "xcQojBHntBGtvBCPqhBEsxBLYfumuEezIBujBJtChbdbeCyBtbpBLan"]),
  ("Pc", [
    "DrbMBvctbDGAocydJfb"]),
  ("Pd", [
    "BtbCAubBzbFKjbBNpbDBdgFHxbcbBfcebBcbRebtbEhbCZWacBlbkbGnbFLobMgb"]),
  ("Ps", [
    "BobBybBfbFPebbbCUobDPmbdbBmbCdbpbYkbbbBebBPubbbbbbbbbbbbbDcbBgbbbbbbbbbPobbbbbbbbbbbbbbb",
    "bbbbbbCmbbbBhbBOvbbbbbbbzbsbbbbbbbQmbbbbbbbbbdbbbbbbbcbCZRtbIhbBdbbbbbbbbbbbbbbbdbrbbbbb",
    "GobBybBfbdbcb"]),
  ("Pe", [
    "BpbBzbBfbFPdbbbCUobDRdbCdbpbYkbbbBebBPubbbbbbbbbbbbbDcbBgbbbbbbbbbPobbbbbbbbbbbbbbbbbbbb",
    "bCmbbbBhbBOvbbbbbbbBsbbbbbbbQmbbbbbbbbbdbbbbbbbccCZRqbIjbBdbbbbbbbbbbbbbbbdbrbbbbbGobBzb",
    "Bfbcbcb"]),
  ("Pi", [
    "GpbLXkbcccbzbFFsbbbebcbpbdb"]),
  ("Pf", [
    "HfbLWvbdbBcbFFsbbbebcbpbdb"]),
  ("Po", [
    "BhdbdcbbbbckcdcBbbCqbfbochbBBabibRygBpbCcbcbcbBscucbcnbbdCweDybBroIzdCcpBfbKbckbFkbEqbEr",
    "bPabmbOdbDmbkcGmpbbEibCwfecEhgGpbXojBDtbEudCtcGbdbdBlgbeMbcIicEyhbgGeckhBcdEueChfCkcCmil",
    "bBGcciiijcecddlbbbkEUcebcEibFncedcbcjbcbbcckfbkcebbbncdQmdCfbHhbBRYgcKjdDvbkbElgOqeDicBo",
    "dbbBxcBvbDtnqcEueEwcqcJpbBFCuhcbwbucceddbehdgbbcFtdbdcbbbbckcdcBbbBkbccPudZsbBwbPybBCpbH",
    "rbBfbKmjBmbEihCohDleBKqfBseHhhEfcbeEweBwcDbeebnbbdDkgEdbLmcbcEkfkcbbEabJqxEbdBcnCybFadJs",
    "bKedFzbDoiDfdbfDpkIhbDrfBqcYvcCwnGtbBRsfEJccWDvcFdbCnfibVgdLjeMpbBDBobLIlfEItbBHec"]),
  ("Sm", [
    "BrbqdCjbbbBtbebBlbBfbBDmbUhdJYhbnbBndndFjbBnfgbCqffcebcbcbhbBfccbbbBfKiBgcDmbBezBogSbbjb",
    "CciEhbMyfcBfkqJwFbwCleBgcJyBwvcgDASqbBFsbbdGibqdCjbbbFbbgeFEfcCYEzbzbBfbzbBfbzbBfbzbBfbz",
    "bIUec"]),
  ("Sc", [
    "BkbEveBWjbEtbTecTechbJlbKdbWjbDQpbDIiBhBZHvbBGMlbEebFybIlcdcMCseCVXebDRkb"]),
  ("Sk", [
    "DqbbbCtbgbebdbUbemofhbbbrEnbocBXibIUmbbdldndndncGHocBSVrxjcDzcBLobocBEKkrBIhbbbGgbDOLjf"]),
  ("So", [
    "GkbcbebbbBLpbKgcExcHybkbtcJnbTvbOjbFagbbFcbHzbBpbPbdpbbdcgubbbbbFdibgbcfeHpcBCykBBvbBBub",
    "GbBiNpkjjCChcbebckbbcggbbbbbbeblcobbcbbCgcjfcebcbcbhbBfccbbbBfKiieuchcDdbBezBogCuwlDdDaw",
    "HbbjbCciEhbJoBsBsCmJwTsBwvcgBncBgbEbIvgNtcBuBabDlmIgBaqebncmbvcgcMycekBgBmjbqBflBeibpBgk",
    "BnpMiJToCmBGUiCdBHhekcbbWbdBFJaqExbBtdSqbdbecncMbjCfrcdbndbBvBtCLucWtbESsbDGnierBCNiefbB",
    "EUwbFVnJgqQuGaEmCiJmkBncCifdwchBeeCjvCodbHeDjBTxTsCdeByibobcCOubEHwbEzbBBtBseDwmpcpbpbBl",
    "xGfCeBdnBsejhcogFyJrfBCaerdndEpeDrgmebpmeCeikgBoiBecmecCkNcmocndkfCehpclgjhFrbDo"]),
  ("Zs", [
    "BgbExbIHjbDPnlBkbBvbFXwb"]),
  ("Zl", [
    "MEqb"]),
  ("Zp", [
    "MErb"]),
  ("Cc", [
    "aBgDrBh"]),
  ("Cf", [
    "GrbCAkgwbHkbBxbOucDcbFTjbDAqfBafBxfbkDGHjbJpdGIzbpbNKkqBZQueHWxiBTKZmbBeDs"]),
  ("Co", [
    "DGVoJMeCAHXoDSYocDSYo"])]

end NodeSieve.Unicode
