import Transcript.Unicode.Packed

/-!
# Ages

The characters that each edition of Unicode has added, from the first to the last. What is assigned in an
edition is what it has added and what those before it have.
-/

namespace Transcript.Unicode

/-- What the editions have added, packed. -/
def ages : List Packed :=
  [
    { names := ["1.1", "v11"]
      packed := ["aTheBdCeDkhBubjwCrBabsbeadafgbabtbBrbgdababababrnlbCnblbBojCacbcbdBbchcbCdBlcgbBmbaBmj",
      "bimBafexaoadabzfsnncCtcebobBdcjTzcbCacrcedyqcbhcbcvbgbaddcabgcbccjaebbecuhacfebcvbgbbb",
      "bbbcabeebccldbahomcbgbabcbvbgbbbecjbcbccapafjrcbhcbcvbgbbcdchdbccibebbcekrbbfdcbddbbab",
      "bdbdcdhbceedcbdjaplocbhbcbwbjbeegbcbdhbjbejsbbhbcbwbjbeegbcbdhbhabbejsbbhbcbwbpefccbdj",
      "aibejFpCfeBcBlbbacbbacagdbgbcbabacbbmbccebabfcjcbRiBlkBmeaeDlfCpfDdEOkFyfDlgvcfcBlcfch",
      "babababBecCabobncfbsccbibBubwBjgdBarkBlrBeCeBaBvnDmvJhoabEqFdBkBbkvFivFtkDbqtgDhFpdbdc",
      "BbbBibabddabgcgoBedxbnDDhCdhabDfefcDpgBneDpbpDsBcdBjBcBbdBxpleBubEoeDucBeJWbBEXxYJqJXt",
      "IcgmegybebabbbbbEdBhOaqClcCbBolBkdmuejbsbdecbabFecabDpcDpdfcfcfccdgbgoc"] },
    { names := ["2.0", "v20"]
      packed := ["CCvqbmuaDMxCtbBghBaefbabudgbaFQnaUhaCATwQNrEIFybDSYobDSYobDSYobDSYobDSYobDSYobDSYobDSY",
      "obDSYobDSYobDSYobDSYobDSYoHLXh"] },
    { names := ["2.1", "v21"]
      packed := ["MJsaDGOta"] },
    { names := ["3.0", "v30"]
      packed := ["TidBehcrEneBxakeDjitaEmadabababaBeamaCoamaBqbcdDobGaaHscDubfapaBqebnbBddBaCbBwCFhbbrdx",
      "bibacgdaefbabhscOjaBraxchabcbocaBwBhbebbbgddgzQggbCkbabdcgbabdcBmbabdcBebabdcgbabdcgbg",
      "bwbBebabdcgbBmbsgBbBjDgmYfjBcdDcFnDodjwobjgDjiBpCWbayfDrcBybDhbCuaDziKjaErabBdFibRphBh",
      "aDibPiJvCCezbDkmIfBalCicdaNpxWmJTdBFEgBSudrcpblbcbaBGScaBVvc"] },
    { names := ["3.1", "v31"]
      packed := ["BMybDQQcBfBXwBebdmBaGzBlcBlCZDqJlkBmdGxVaDgbCsbbcacbcdblbabdbbbCmbdchbgbBbbdbebadgbMze",
      "LdeBxPDwCLEsBETdUvBPCQtaBeDr"] },
    { names := ["3.2", "v32"]
      packed := ["UyaLqatmEabBcaFrbCfbcbcbBxpNmbMjaDNhbCHjmbglwjtmmbcbbDIxageeahenaCkbBygDeoGmlJinEuaBeB",
      "zKytFvjDkhwbDmlcjIonDmBbepJwTrBZncDjbibDqaJgpDdoDdoBRDibqamadaBGJaCgBJdadpCbbBsaJbb"] },
    { names := ["4.0", "v40"]
      packed := ["UzascEpbClqDchfcFveTwdjiCmcFtbpaBtcBdcQuaHcaCpabaFgaDgcnaCpaChaEzhHlbEFnasjKcBcdlelead",
      "BpceEdBfBDoEdBCpbIwaZjbLqaKqbEmhobBRanCRnbBxaBrbDadGldDvbBfaJToClCOQvaCvbQxlbzbsbbbocn",
      "BiEsfceBsdiWeBdbaFebBmDbcjBGwfcabBrbbdacaCYUiDiNyaBTKDaJf"] },
    { names := ["4.1", "v41"]
      packed := ["VvkKseGddJmbGoaBicCpasaCgfJhBdUhaDcaStaBvaBMnbLjbbaKgaClaClaBnaBfaBfaBfapaBnaxbBfzCGcB",
      "pgzgjebBgBbcbBGmDjZhbbgBxeBddCbaDcapaYukWaaDxbskfpKkgBGhfJcBubBuBhEcoBskCbjaqwjgbgbgbg",
      "bgbgbgbgBhxebBJupGsaBPItvCTowIzBrBFEaEbBFqjBFaCwUnBjenCIsdbbfhbcbBaeceiiiCXPvCrBRab"] },
    { names := ["5.0", "v50"]
      packed := ["WgnLncMzaBqfqdGkaTxCgOubbbBHibnbFIjCxeBsWlgBzbBCudDpbCbaXblBBmaKqdBGjgfdMemhdBULjdfbLa",
      "CdBKOmzfaIRgBHuFpDundCOGirBQub"] },
    { names := ["5.1", "v51"]
      packed := ["BHwdcbDjaHbaFkpIseleBgeLqrTdbIoaBjaHyaBdbEeaEeaBabibuhHhagaBdbmfdgSxbDtadcCzafacahcefB",
      "aClebDBeaBBxBqdlCsCddodByMtBbGzdDmfNsaFjaDqaCbdBYaavjddKeaBfdBFfeeBodeKucbcefNqBfydcsB",
      "DkaGgtBPPohBZoLnuBfcriBbFbecEcEgeEyCqjlBmDflaGeCcjncjcdBFSucBHplCaBtFaBcdBwCKdzfaCXSja",
      "LRqBreDv"] },
    { names := ["5.2", "v52"]
      packed := ["BYqbBCcBtcoHlaCzagaBjbEyaCFpdHldHgeCqeDefTsaYgiVoCrGybBuaCrCkbBcckgjgnVaBiKgaBAucFvcCc",
      "aXiaBArbBdcejbsbaexDjaBNheKsanbEdgMhaBOclBPLshBXkBvQaDjMajGkBbDwBcdCzbkebEyBbeCoyeIqBt",
      "cjQOkweBwNBbcFGcvbiHebMmBfEyCbdBccBafhEyCuUpBeTtCnLVqBPeCTNdkfBecalabacadadeiahazabbca",
      "kdcaEhapBhoiCQLjGDo"] },
    { names := ["6.0", "v60"]
      packed := ["BYsbJoaCkaSmBbcaIlbtagbBbeTmfQraqataWbdCvbBIobDEnBzidToaZohBcaBFjkBCcatabdBdaebBcaBjab",
      "aecjbCacyaoaobCDkaoaBPocBSEnbLnbbbojDcaBDufcfcfjgbgBEMtpHRiCzeBdBHEeVwBALbbYMgocncoboD",
      "cabkbabbbcbcfhbgbjgibacbbjebbjCxzbbBvivbGsBgpfbCrdtmBkbevqpCkbabGzbddCjsxFrebpbcbababa",
      "bcbfcdbacdblekBwCrCgElCUQmIn"] },
    { names := ["6.1", "v61"]
      packed := ["CCtaEmaZrabkCdBaTdaBMrbStafaBvcEBbcmfJwhBrdECqabaBYqbBzafaCebHujBRAeaCNnhBjaJibwaCzbBC",
      "owBDZzbFUuCdgbCRoyhjgCabnCiCuhjBTuCdijBHKoCqlBuqqBVWidbBabbbacabjbdbabagaeabababcbbbac",
      "abababababbbacdbgbdbdbabjbqfcbebqCabYibBLsdHgaqadabababadagbeabbea"] },
    { names := ["6.2", "v62"]
      packed := ["MKga"] },
    { names := ["6.3", "v63"]
      packed := ["CIeaJYvd"] },
    { names := ["7.0", "v70"]
      packed := ["BIlaQihDpbEoaZralfCyaEqahaYpaBzaCyaExaIujDKrhVcbPloVxbJdoBBhcBFqgBDtaBQickzcBfcBhdlbhX",
      "ugBTOvfJmllccbCraSuBeEvdGuBvebBFIvgBHdbtaMhBbBjaBwBqOzBniBzlaFoLyjvkhJoCkiiRwBfBgBmelF",
      "hrhdmgBVjaIaBmDiamagtlrbBqEkCgfjhcbhcbcvbgbbbecicbccjafgcgdeKhCtijGkCbcrCcCqljWkDemaRg",
      "CeDFiBpHulfaBALfBebjebDsBdcfkCrkjbgbufsBEMaEcfmdihjchQKyHocpCZwaBgvvbUmljaCsawlBlafdfl",
      "rgCtabaHaaebClbegBdrbBobDhCsbnBvCsjqmddFkDgBrleCdijgBniBd"] },
    { names := ["8.0", "v80"]
      packed := ["DHrbBuaUnaNoaKaaCMvacfEVoaHvbDYedBRWviCOuaJgaBifMmbXmdmDbBFFqbEBgsbbfeHgbcpcBtYqBynByh",
      "fBVddoeGegbabdbobkDiaDbaYjtLezdoepERpaIwHnLQqWkCAWlkCHzZbpeboJHdcDabDbeBkhJvaCxeJjbFja",
      "WdiDzeChaCUClINp"] },
    { names := ["9.0", "v90"]
      packed := ["DHuhwoBJpaHyaecbgxcFRziOgaCHbdDXcbBTZlaKsaBHQdbBEvBjeBjFAoaRhDlbabaTumCCxibBsbnkBcdBfc",
      "vbnBFMvaBfJBotBDaBGFlgbqcgbbbeDIzCwfjebDDbrFmaBFyaBpaLobBhcVafbhiaclbleoBmm"] },
    { names := ["10.0", "v100"]
      packed := ["DEmkPlbJsfTsaCgbFYwaJudBBhaBFzaCZaaYceBCmaBPXnuBLPicIQqCtiBzcwbeXhgbbbBrdabbbiijBFGpaY",
      "HkKyDdPfYAefBRpbBibTzltaihbbzasmBmfCewDCPdLBk"] },
    { names := ["11.0", "v110"]
      packed := ["CAyaBnaDyaUfcIdaLmaEpaPhaExaENraBOhBqccFRmcwyeoWpeBCiaBPYheCYhaibMmbBKVcbsaBAtBnijRmBn",
      "iBpOhaEocTgaLeaBAxaIvChXlaBBefbbbBkbbbfhjLyyBEApDmJPieBCJutEwgJLwCpBScaCEzaIldOicBcecd",
      "dabdyknjhbBkyDsn"] },
    { names := ["12.0", "v120"]
      packed := ["EStaUgacacabfeahahbcanaFKhaFPuaCbaWtaBTZmfceBJrbBMBgwBRkaXcaBCphcBtckGdbBZmBxnaHQuiWJk",
      "feaBviDmbJCwfPRccrdSAqBsdncjebOeCffaCJzaBKnCiBPeaCBgaBkaIvlLdcBvaBxajaBpfdbkfdhccBwDfB",
      "cdecfcnf"] },
    { names := ["12.1", "v121"]
      packed := ["TIda"] },
    { names := ["13.0", "v130"]
      packed := ["DIcjZdaQoaEuaFAjbGJuaBAucBHoeKPijBFDgmCYsdBqbCbaBFvdBGQqaEWxBpbccbJuBbOpaFebZaafbBTmgc",
      "achbbbBdbbcljjCKkaBEJralbKFxSoBqiBLWucDpcCjaBYubBjbQtbDmaDxaebBqbgcBdaGmaodpshgjcngBpF",
      "qbCcBljCMSjgBHTqHHy"] },
    { names := ["14.0", "v140"]
      packed := ["CIfaWwBebbghvaskBHpaBgaExaDWhahajaJfaBAnnEvaBwbYlaBBhaEIoaBvaTfkBRAtcCYibobbabeycBFTda",
      "OrpExaBubCVgkbobgbbbkbobgbbRjfbBpbiCXxzIwfCyaCGsaFegBHppHWyDuWDxDabjBAEwdbgbbLcdLIbBtc",
      "wjElVdbEYvBeBHxBeBZdgbdbbboFQkcKmaPcaDeaGsbBsdkdicrcghigCNCpbGEvd"] },
    { names := ["15.0", "v150"]
      packed := ["EXnaSgaDTAkcBFzcDIcjBNaqbBodBbHXdajBcBVHkaBiaMRatERhfKbCjBhaBPwBpGUcaFvceeDlaZrcpbBkcl",
      "cbaobkbmaobCTHoaBIWsGFf"] },
    { names := ["15.1", "v151"]
      packed := ["SEmdTbaKEIqXx"] },
    { names := ["16.0", "v160"]
      packed := ["DGpaHCgbBvaKfbCWycFFebBSQvcmcBJOlBzCTwBldBcibLucCdaBSljbacabBlbjbacabdbjbbibBCvtBVwBho",
      "jBHgaHYzFXqKZtCfEOkCfLYjaXWiJpgQtIToBqeaHCcjebRnafaBuahavacajaIrBk"] },
    { names := ["17.0", "v170"]
      packed := ["DGhaBLkaExaFHioclCFlaECqaBVBbbcabaBcaBFThpRdbCcgEIrzCBjciiBhbESahWmBrejBEOsycyLaeJCjhB",
      "XpvDtEkXWpcRdwpqJAlBebvibGAaaGcdNdiOpdByadaCfaeaBcaeaKgaCSXrfIWglBGFaGJh"] } ]

end Transcript.Unicode
