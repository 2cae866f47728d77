import NodeSieve.Unicode.Runs

/-!
# Ages

The characters that each version of the standard added, oldest version first.
-/

namespace NodeSieve.Unicode

/-- The characters added by each version, in the order of the versions. -/
def ageRuns : List (String × List String) := [
  ("V1_1", [
    "aTieBeCeDlhBvbkwCsBacscebdbfhbbbubBsbhdbbbbbbbbsnmbCobmbBpjCbccccdBcciccCdBmchbBnbbBmkbj",
    "mBbffxbobdbbBaftnocCucfbpbBeckTzdbCbcscfdzqdbicccwbhbbdecbbhcccdjbecbfcvhbcgeccwbhbcbcbc",
    "cbbfeccdlebbhpmdbhbbbdbwbhbcbfckbdbdcbpbfkrdbicccwbhbccecidccdicecbdelrcbgddbedcbbbcdcdd",
    "dibdefddbejbpmodbibdbxbkbfehbdbehcjcekscbibdbxbkbfehbdbehchbbcekscbibdbxbqegcdbejbicekFp",
    "CgeBdBlcbbccbbcbgebhbdbbbbccbnbdcfbbbgckccRiBmkBnebeDmfCqfDeEOkFzfDmgwcgcBmcgcibbbbbbbBf",
    "cCbbpbocgbtcdbjbBvbxBjhdBbrlBlsBeCfBaBwnDnvJiobbErFdBlBblvFjvFukDcqugDiFpebecBcbBjbbbedb",
    "bhchoBfdyboDDhCehbbDgegcDqgBoeDqbqDsBddBkBcBcdBypmeBvbEpeDvcBfJWbBEXyYJqJXuIchmfgzbfbbbc",
    "bcbEeBhObqCmcCcBomBkemvekbtbeedbbbFfcbbDqcDqdgcgcgcddhbhod"]),
  ("V2_0", [
    "CCvrbnubDMxCubBhhBbegbbbvdhbbFQnbUhbCATwQNsEIFycDSYocDSYocDSYocDSYocDSYocDSYocDSYocDSYoc",
    "DSYocDSYocDSYocDSYocDSYoHLXi"]),
  ("V2_1", [
    "MJsbDGOtb"]),
  ("V3_0", [
    "TieBeicsEnfBxbkfDjjtbEmbdbbbbbbbBebmbCobmbBqcceDocGabHsdDucfbpbBqfbobBedBbCbBxCFhcbsdybj",
    "bbchdbegbbbisdOjbBrbxdhbbdbpcbBwBibfbcbhdegBaQghbClbbbechbbbecBnbbbecBfbbbechbbbechbhbxb",
    "BfbbbechbBnbtgBcBjDhmYgjBddDdFnDpdkwpbkgDkiBqCWbbygDrdBycDhcCubDzjKjbErbbBeFicRpiBhbDicP",
    "iJwCCeBabDlmIgBamCiddbNpyWmJTeBFEgBSvdscqbmbdbbBGScbBVvd"]),
  ("V3_1", [
    "BMycDQQcBgBXwBfbemBbGzBmcBmCZDqJmkBndGyVaDhbCtbccbcccebmbbbebcbCnbecibhbBcbebfbbdhbNaeLe",
    "eByPDwCLEtBETdUwBPCQtbBeDs"]),
  ("V3_2", [
    "UybLqbtnEacBcbFrcCfcccccBxqNmcMjbDNhcCHjnbhlxjumnbdbcDIxbgfebhfnbCkcByhDepGmmJioEubBeCaK",
    "yuFvkDkiwcDmmckIooDmBceqJwTsBZndDjcicDqbJgqDdpDdpBRDicqbmbdbBGJaChBJdbdqCbcBsbJbc"]),
  ("V4_0", [
    "UzbsdEpcClrDcifdFvfTwejjCmdFtcpbBtdBddQubHcbCpbbbFgbDgdnbCpbChbEziHlcEFnbskKcBddmemebdBq",
    "cfEdBgBDoEeBCpcIwbZjcLqbKqcEmiocBRaoCRncBxbBrcDaeGleDvcBfbJToCmCOQvbCvcQxmbBabtbcbpcoBiE",
    "tfdeBtdjWeBebbFecBmDcckBGwgcbbBsbcdbcbCYUiDjNybBTKDaJg"]),
  ("V4_1", [
    "VvlKsfGdeJmcGobBidCpbsbCggJhBeUhbDcbStbBvbBMncLjcbbKgbClbClbBnbBfbBfbBfbpbBnbxcBfBaCGcBq",
    "gBagkecBgBcccBGmDkZhcbhBxfBdeCbbDcbpbYulWabDxcslfqKkhBGhgJcBvbBvBhEdoBtkCcjbqxjhbhbhbhbh",
    "bhbhbhBhyecBJuqGsbBPItwCToxIzBsBFEaEcBFqkBFaCxUnBkeoCIsebcfibdbBbedejijCXPvCsBRac"]),
  ("V5_0", [
    "WgoLndMzbBqgqeGkbTxChOucbcBHicncFIjCyeBtWlhBzcBCueDpcCbbXbmBBmbKqeBGjhfeMenheBULjefcLaCe",
    "BKOmBafbIRgBHvFpDvneCOGisBQuc"]),
  ("V5_1", [
    "BHweccDjbHbbFkqIsflfBgfLqsTdcIobBjbHybBdcEebEebBacicuiHhbgbBdcmgdhSxcDtbddCzbfbcbhdegBaC",
    "mecDBebBBxBrdmCsCedpdBzMtBcGzeDmgNsbFjbDqbCbeBYabvkdeKebBfeBFffeBpdfKudbdegNqBgyectBDkbG",
    "guBPPoiBZoLouBgcsiBcFbfcEdEgfEyCrjmBmDglbGeCdjockceBFSudBHpmCaBuFaBddBxCKdBafbCXSjbLRqBs",
    "eDw"]),
  ("V5_2", [
    "BYqcBCcBucpHlbCzbgbBjcEybCFpeHleHgfCqfDegTsbYgjVoCsGycBubCrClbBdclgkgoVaBjKgbBAudFvdCcbX",
    "ibBArcBddekbtbbeyDjbBNhfKsbncEdhMhbBOcmBPLsiBXkBwQaDkMakGkBcDwBddDablecEyBceCpyfIqBuckQO",
    "kxeBxNBbdFGcwbjHecMmBgEyCcdBdcBbfiEyCvUpBfTtCoLVqBPfCTNdlfBfcblbbbcbdbdfibhbzbbccbkecbEh",
    "bpBiojCQLjGDp"]),
  ("V6_0", [
    "BYscJobCkbSmBccbIlctbgcBbfTmgQrbqbtbWbeCvcBIocDEnCaieTobZoiBcbBFjlBCcbtbbeBdbecBcbBjbbbe",
    "djcCadybobocCDkbobBPodBSEncLncbcokDcbBDugcgcgjhbhBEMtqHRiDaeBeBHEeVxBALbcYMgpcocpbpDcbbl",
    "bbbcbdbdfibhbkgjbbccbkecbkCxBabcBvjvcGsBhpgbCsdumBlbfvrpClbbbHabedCksyFrfbqbdbbbbbbbdbgc",
    "ebbcebmelBwCsCgEmCUQmIo"]),
  ("V6_1", [
    "CCtbEmbZrbblCdBbTdbBMrcStbfbBvdEBbdmgJwiBreECqbbbBYqcBzbfbCecHukBRAebCNniBjbJicwbCzcBCox",
    "BDZzcFUuCegcCRozhkgCbboCiCvhkBTuCeikBHKoCrlBvqrBVWiebBbbcbbcbbkbebbbbgbebbbbbbdbcbbcbbbb",
    "bbbbbbcbbcebhbebebbbkbrfdbfbrCacYicBLseHgbqbdbbbbbbbdbgcebbceb"]),
  ("V6_2", [
    "MKgb"]),
  ("V6_3", [
    "CIebJYve"]),
  ("V7_0", [
    "BIlbQiiDpcEobZrblgCybEqbhbYpbBzbCybExbIukDKriVccPlpVxcJdpBBhdBFqhBDtbBQidkBacBgcBidmbiXu",
    "hBTOvgJmmldccCrbSuBfEveGuBwecBFIvhBHdctbMhBcBjbBwBrOzBoiCalbFoLzjwkiJoClijRwBgBgBnemFhsh",
    "emhBVjbIaBnDibmbgulsbBrEkChfkhdbicccwbhbcbfcjcccdjbfhchdfKhCuikGkCccsCcCrlkWkDfmbRgCfDFi",
    "BqHumfbBALfBfbkecDsBecgkCskkbhbvftBEMaEdfndjhkciQKyHpcqCZwbBgwvcUmmjbCsbwmBlbfefmrhCtbbb",
    "HabecClcehBdsbBpbDiCscnBwCskqndeFkDhBrmeCeikgBoiBe"]),
  ("V8_0", [
    "DHrcBubUnbNobKabCMvbcgEVobHvcDYeeBRWvjCOubJgbBigMmcXmemDcBFFqcEBgtbcffHgccqcBuYqBznBzhgB",
    "VdeofGehbbbebpblDibDbbYjuLeBadpeqERpbIwHoLQqWlCAWllCHzZcpfbpJHddDacDbfBkiJvbCxfJjcFjbWdj",
    "DzfChbCUClINq"]),
  ("V9_0", [
    "DHuiwpBJpbHybedbhxdFRzjOgbCHbeDXccBTZlbKsbBHQdcBEvBkeBkFAobRhDmbbbbTunCCxjbBtbokBddBgcwb",
    "oBFMvbBfJBptBDbBGFlhbrchbcbfDIzCxfkecDDbsFmbBFybBpbLocBhdVagbiibcmbmepBmn"]),
  ("V10_0", [
    "DEmlPlcJsgTsbCgcFYwbJueBBhbBFzbCZabYcfBCmbBPXnvBLPidIQqCuiCacxbfXhhbcbBsdbbcbjikBFGpbYHk",
    "KzDdPgYAegBRpcBicTzmtbiibczbsnBmgCexDCPdLBl"]),
  ("V11_0", [
    "CAybBnbDybUfdIdbLmbEpbPhbExbENrbBOhBrcdFRmdwzepWpfBCibBPYhfCYhbicMmcBKVccsbBAtBoikRmBoiB",
    "qOhbEodTgbLebBAxbIvCiXlbBBegbcbBlbcbghkLyzBEApDnJPifBCJuuEwhJLwCqBScbCEzbIleOidBcfcedbbe",
    "ylnkhcBkzDso"]),
  ("V12_0", [
    "EStbUgbcbcbbgebhbhccbnbFKhbFPubCbbWtbBTZmgcfBJrcBMBgxBRkbXcbBCpicBuclGdcBZmBynbHQujWJkge",
    "bBvjDmcJCwgPRcdreSAqBtdockecOeCgfbCJzbBKnCjBPebCBgbBkbIvmLddBvbBxbjbBpgdckgdicdBwDgBceed",
    "fdng"]),
  ("V12_1", [
    "TIdb"]),
  ("V13_0", [
    "DIckZdbQobEubFAjcGJubBAudBHofKPikBFDgnCYseBqcCbbBFveBGQqbEWxBqbdccJuBcOpbFecZabfcBTmhcbc",
    "ibcbBebccmjkCKkbBEJrblcKFxSpBqjBLWudDpdCjbBYucBjcQtcDmbDxbecBqcgdBdbGmboepthhjdnhBpFrbCd",
    "BlkCMSjhBHTqHHz"]),
  ("V14_0", [
    "CIfbWwBfbcgivbslBHpbBgbExbDWhbhbjbJfbBAnoEvbBwcYlbBBhbEIobBvbTflBRAtdCYicocbbbfydBFTdbOr",
    "qExbBucCVglbpbhbcblbpbhbcRjgbBqbjCXxBaIwgCybCGsbFehBHpqHWyDvWDxDbbkBAEwebhbcLceLIbBucxjE",
    "mVdcEYvBfBHxBfBZdhbebcbpFQkdKmbPcbDebGscBsekeidrdgiihCNCpcGEve"]),
  ("V15_0", [
    "EXnbSgbDTAkdBFzdDIckBNarbBpdBcHXdbjBdBVHkbBibMRauERhgKbCkBhbBPwBqGUcbFvdefDlbZrdpcBkdldb",
    "bockcmbocCTHobBIWsGFg"]),
  ("V15_1", [
    "SEmeTbbKEIqXy"]),
  ("V16_0", [
    "DGpbHCgcBvbKfcCWydFFecBSQvdmdBJOlCaCTwBmdBdicLudCdbBSlkbbcbbBmbkbbcbbebkbcicBCvuBVwBiokB",
    "HgbHYzFXrKZtCgEOkCgLYjbXWiJqgQuIToBrebHCckecRnbfbBubhbvbcbjbIrBl"])]

end NodeSieve.Unicode
