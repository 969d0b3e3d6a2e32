import Transcript.Unicode.Packed

/-!
# Binary properties

The characters that have each binary property.
-/

namespace Transcript.Unicode

/-- The binary properties, packed. -/
def binaryProperties : List Packed :=
  [
    { names := ["asciihexdigit", "ahex"]
      packed := ["BwjhfBaf"] },
    { names := ["alphabetic", "alpha"]
      packed := ["CnzgzBvakaeafwbBebRpeloehabaDiaBdrbbcdbagabcbabtbDebFiiGjbBlcagBoBnnbabbbbbaiBaedBdkfC",
      "dbgoDxbheheckccaqBvnDwyBgjbeafxcstyhkfxbghaiBpkldggCxbpbceonsbhcbcvbgbadddhcbcbbaiaebb",
      "embkaecbfebcvbgbbbbbbeeebcbeahdbarflcbibcbvbgbbbedibcbbdapdvdecbhcbcvbgbbbedhcbcbjbebb",
      "enaqbbfdcbddbbabbdbdcdleedcbcdagaBombcbwbpdhbcbcibbcbbcdBcdbhbcbwbjbedhbcbcibfcbdncmmb",
      "cbBochbcbcbafdhewfbcbrdxbibacgifbabhsbnCffggaBzbbabebxbabsbccebagaodBgaClhbBjesepbBjCp",
      "CcbaceqClkdcBlbafacBqbMubdcgbabdcBobdcBgbdcgbabdcobCebdcCoBlpqDhcfdXvcqbzfCwdkhtlumtmm",
      "bcbbmBzcsoaeaCpDkhBqfCrkBebleixBdcelBrezCcBbeCkctByaxblcBxBzbobhBzBpcdkBrbkoCcwckBjckf",
      "BqccBpdbfbbdafHjtBhlKrcfcBlcfchbabababBecCabgbadcbgddcfemfcbgEmanaqmDxaeacjbadegababab",
      "dbkcdfeearBoBFhBzCRuIugddbmBlbafacCdhaqwjgbgbgbgbgbgbgbgbBfBvaSbcziheceeDhgcbDlbdfBqbD",
      "prBfBwpTsJTnCmBGUeCpBtcKidpkbuBufhdEiBnicDycDduubBgyBzmCpbaBsfdabckBgfBinBcdByblpaqpke",
      "bCcjnswdCqbabayccpcdlfcfcfjgbgbBqbngEsvQNrmweBwMNcObcEbBmgmeflbmbebabbbbbEdBhNysClcCbB",
      "olEmebFeBkzgzlDkdfcfcfccBjlbzbsbbbocnBiEsCrCaKhBcdBwBvBfnBdfBqfBdcBjehbeBqGbsBjeBjeBni",
      "BzmkbobgbbbkbobgbbdBzmLyjvkhyfbBpbiCrfcabBrbbdacwkwjBeCnsbbkvkzgzBmCdgbCmdbbfhbcbBcBqB",
      "cdBcBjhbBbBbCbkvksnrEgCuCdBynBynBnBiBbdafwJqBpbbdbqfBycdBckaivBqrBuuBbwjCrBrekCejanyxB",
      "yrdiBidajClbdjbkabaBjrbBhcagdCkgbabdbobjhCexdbhcbcvbgbbbedhcbcbdagafgBcjbacabBlbjbacab",
      "dbbdabaBsCnbcbducBeCncbbaHcCbcgzfBiCkbadaChCbcaCtBacnvgHdCeDzClBfhcachbbbBdbbcbcdDphcB",
      "tcfbabbBbBycjrCtfasCuDzhDkBgBfibBsbgbaBxBdcvbnCvgbbbBrdabbbcbacbyfbbbBkbbbdbaxBrKawjqb",
      "BodcEhaDbBJlDyEgrHnDXkDspBPfrfzFXqfWkKDdBuCPdVwhBerDarBdsBvqdBfufsQqBsIdClBgycyBsCweCe",
      "hqCmbbamgjKXxBpBfDtEkMWrdbgbbbLepaBdccaodiPfDKuEcfmdihjeaIWfDgbCsbbcacbcdblbabgbCmbdch",
      "bgbBbbdbebadgbNbcybybBebybBebybBebybBebybhCSyBegfIfgbqcgbbbefCjBhaEiBskgqaMjBdsBrSqBbI",
      "uBdcaHzBebvibIqgbdbbbobHoChCpdadaBUidbBabbbacabjbdbabagaeabababcbbbacabababababbbacdbg",
      "bdbdbabjbqfcbebqYezgzgzFMkCLFbBgGMncIObcLBkpXxDQwUvCFyHHyfMOn"] },
    { names := ["bidicontrol", "bidic"]
      packed := ["CIeaJVlbBaeCdd"] },
    { names := ["bidimirrored", "bidim"]
      packed := ["BobsabaBcabaBdabaBtapaFMsdCUnbDQqbkbCcbobGvaHkddfdadbddbdbabaeifabrfdjbbabhbBfcdfajbcs",
      "fbjecbexcpidubhbBPtnCwacdbbbcfdfcdnPnvcfbniahfdaeebbceeabccbkfcbmsbdcabacabdfbgcyblbed",
      "bbcbeBqchbBnfabadefceadebaJwaTvddbbbobcjBrhQljchDACrffbGgbsabaBcabaBdababbbbDDPnaCfaCf",
      "aCfaCfa"] },
    { names := ["caseignorable", "ci"]
      packed := ["BnagalaBjabaCtaeabaeacbTjHjebeajbbaJrgHzafaBxBsbabbbbbaBsalfkkbaBjakuqaDxhbjbdBhabaBeB",
      "aDnkCgkeacayxBrcBsahbfiBpCfCdabaeheadgkbnapaCgaediaubBaacbCfaebebccdaBebdalbCfaeebbeau",
      "bwfbaCgacabdiahblbBeaCjamaByadaCdabcfcbdhblbBdaCgacagafbubBcbCfbediaubBdaCuahcbaDmacgl",
      "iDuacijabgCvbBbababaCdnbebbfkbBjjaDydbfbbcbzbecqdnacbgapaDqaXkcBKkcBdbBebBebCmbbgiackd",
      "afaBteBzaCnbBiaEocebjagcIlbcaCgabgbabachgjcaBnaiBtcludBwabebafaBoimbBgdcbbcCeabbdabcCg",
      "hcbCmfDecbmbgeagadbByCknaBiDwRdabclcncncnbmeibkacaceBxebjbanaqmBzBgEJrbEjcEvapaDsBfBva",
      "SbaBkddefaDpfDpcBQBuaBWcfKkaDudbjbaBcdDcboBhDaaxcDyddbiadaeazbfaFvbBarnaBmhzkBucBwacdc",
      "bravbCofcbcbmaiaBjalaBzabccbfbbaBbaobfbbaDwejcEracaeaBDZsaFrqWbpdampBiacaGnahagalaBjab",
      "aBvaBtbCpavcTtaIsaFteBNpfbBpbiWkcbbfdBoceaGjbWbdBmaBaebaMdbyaCafCskBxdEtaCcoBpacbkcBxd",
      "cbcaeakaBycBkebhCkambCaikdcaDrccabbgacaGbadhvbCfbdaBlgdeCsfnababaobDhhccbaxaDgfbaebbbJ",
      "edgbbbBbbDhhcabbEcabacfbaDxabacdbeJzibbJwbbaeaFodcbeaBgjBofcdiajfccBumbbHqabcbaHtgbfba",
      "DevcgbbbbEsfdabbbgbaCubdabaCnaKvblbCaefabaxaHXdqgoQYyldcDSaeChgjdTocBobSoaClqCmbbbnbYG",
      "adbgbbEUgbbdGYuBtcwUycjpcgBedFscCYdCceBxiaoaweboCAigbqcgbbbefCjBhaGenOeaCjdTneJubJjaca",
      "hbfajaRwgEfhEBfeBSXXpaBeDrEyJf"] },
    { names := ["cased"]
      packed := ["CnzgzBvakaeafwbBebHmbdeHzcBihbBeeDsaBqdcbcdbagabcbabtbDebFiiGjbBljBoEFfBlbafacBqbdZwDh",
      "cfDFukfBqccCmHjCmKrcfcBlcfchbabababBecCabgbadcbgddcfemfcbgEmanaqmDxaeacjbadegabababdbf",
      "eacdfeearBfdbBFlBzCRuIugddbmBlbafaBTWcBtsBdFcDxddbCyufbcBFpBqbngDbBEAigmeBNtzgzBTtDbDs",
      "BjeBjEmkbobgbbbkbobgbbRjaccbBpbiBUzBynByDpvkvEFiClBGIqClBgycyBMIeDgbCsbbcacbcdblbabgbC",
      "mbdchbgbBbbdbebadgbNbcybybBebybBebybBebybBebybhCSyjbtgfKbCjDGkCpDAazgzgz"] },
    { names := ["changeswhencasefolded", "cwcf"]
      packed := ["CnzDmakwbhBgabababababababababababababababababababababababababababacababababababababbb",
      "ababababababababababababababababababababababbbabababbbabbbccdbbbcdbbbbababbbacabbbcbab",
      "bdahbbbbbbabababababababacababababababababacbbabcbabababababababababababababababababab",
      "ababababababababababahbbbcabdbabababaJmaBqabadaiagabcbabbbqbiwamcdbbababababababababab",
      "abababbcbbabbcByBwababababababababababababababababajababababababababababababababababab",
      "ababababababababababbbabababababacabababababababababababababababababababababababababab",
      "abababababababababababababababababababababacBlBwaEFgBlbafaBFefDFujgBqccMiababababababa",
      "bababababababababababababababababababababababababababababababababababababababababababa",
      "bababababababababababababababababababababababababafbcababababababababababababababababa",
      "babababababababababababababababababababababababababababababababajhifkhihiflabababaihqB",
      "vcccffccfldmefccfLladbgaBtptaBFmzCSuBvBwabccabababdbacaicbabababababababababababababab",
      "ababababababababababababababababababababababababababababababababababaiabaeaBTYjabababa",
      "bababababababababababababababababababatabababababababababababababaFfababababababadabab",
      "ababababababababababababababababababababababababababababakababbbabababaeabacabadababab",
      "abababababababebebabababababababdbabbbabababababababayaBIgDbBEAigmeBNtzBUzBnFgBjGakbob",
      "gbbCQcByGbvEGoBfBGJwBfCmyBUHzBh"] },
    { names := ["changeswhencasemapped", "cwcm"]
      packed := ["CnzgzCgakwbBebClbDfbBbcncbbaeDobrgBabbbabbdbbdbecabbcahacabbdffakbGkaBqdcbdcbagabcbabt",
      "bBudBgbebFciGjbBlkBmEFgBlbafacBqccZwDhcfDFukfBqccHdadaqaEjFzcabEncfcBlcfchbabababBecCa",
      "bgbadcbgddcfemfcbgLladbgaBbarBfdbBFlBzCRuEibbbbhDxhddbmBlbafaBTWcBtsBbFencCjjodccebybB",
      "sybBHcaBcDbBEAigmeBNtzgzBTtDbDsBjeBjEmkbobgbbbkbobgbbCOpBynByDpvkvEFiClBGIqClBgycyBUGy",
      "Cp"] },
    { names := ["changeswhenlowercased", "cwl"]
      packed := ["CnzDxwbgBhabababababababababababababababababababababababababababacabababababababacabab",
      "abababababababababababababababababababababbbabadbbabbbccdbbbcdbbbbababbbacabbbcbabbdah",
      "bbbbbbabababababababacababababababababacbbabcbabababababababababababababababababababab",
      "ababababababababahbbbcabdbabababaLdabadaiagabcbabbbqbiBjaiabababababababababababafacab",
      "bcByBwababababababababababababababababajababababababababababababababababababababababab",
      "ababababbbabababababacabababababababababababababababababababababababababababababababab",
      "abababababababababababababababacBlEHdBlbafaBBuDhDGlagBqccMiabababababababababababababa",
      "bababababababababababababababababababababababababababababababababababababababababababa",
      "babababababababababababababababababajababababababababababababababababababababababababa",
      "babababababababababababababababababababababababajhifkhihiflabababaihyhihihieleldmeleLl",
      "adbgaBtptaBFmzCSuBvBwabccabababdbacaicbabababababababababababababababababababababababa",
      "bababababababababababababababababababababababababaiabaeaBTYjababababababababababababab",
      "abababababababababatabababababababababababababaFfababababababadabababababababababababa",
      "bababababababababababababababababababakababbbabababaeabacabadababababababababababebeba",
      "bababababababdbabbbabababababababayaBHAhzBUzBnFgBjGakbobgbbCQcByGbvEGoBfBGJwBfCmyBUHzB",
      "h"] },
    { names := ["changeswhentitlecased", "cwt"]
      packed := ["DtzCgaBpxbhbabababababababababababababababababababababababababababacabababababababbbab",
      "abababababababababababababababababababababacababccabacadafacadccacababacaeacadabacadab",
      "aeabbbbbababababababababbbababababababababcbabadababababababababababababababababababab",
      "adababababababababaiacbbaeababababfbbbabbdbbdbecabbcahacabbdffakbGkaBrabadadcsaBbBibbd",
      "cbabababababababababababebacacaCaBvbababababababababababababababababajabababababababab",
      "ababababababababababababababababababacababababababbbababababababababababababababababab",
      "ababababababababababababababababababababababababababababababaBxBmFMefDFuibaJeadaqaEkab",
      "ababababababababababababababababababababababababababababababababababababababababababab",
      "ababababababababababababababababababababababababababababababgfabababababababababababab",
      "abababababababababababababababababababababababababababababababababababiifkhihifkhihinc",
      "hihihiebbgadcbbidcbihkcbbNeaBhpeaBGlzCTqBvbadbbababagacakababababababababababababababa",
      "bababababababababababababababababababababababababababababababababababaiabaeamBlbafaBTW",
      "dababababababababababababababababababababababatabababababababababababababaFfababababab",
      "abadababababababababababababababababababababababababababababababakabacababababaeaeabbc",
      "abababababababababalabababababababaeabacabababababababaBaaBHcaBcDbBEAigmeBOzzBVhBnFgBj",
      "FzkbobgbbCRbByEvvEGoBfBGJwBfChyBUIgBh"] },
    { names := ["changeswhenuppercased", "cwu"]
      packed := ["DtzCgaBpxbhbabababababababababababababababababababababababababababacabababababababbbab",
      "abababababababababababababababababababababacababccabacadafacadccacababacaeacadabacadab",
      "afbbbbbbabababababababbbababababababababbbbbadabababababababababababababababababababad",
      "ababababababababaiacbbaeababababfbbbabbdbbdbecabbcahacabbdffakbGkaBrabadadcsaBbBibbdcb",
      "abababababababababababebacacaCaBvbababababababababababababababababajababababababababab",
      "abababababababababababababababababacababababababbbabababababababababababababababababab",
      "abababababababababababababababababababababababababababababaBxBmEHcBqccBDgfDFuibaJeadaq",
      "aEkabababababababababababababababababababababababababababababababababababababababababa",
      "bababababababababababababababababababababababababababababababababgfabababababababababa",
      "babababababababababababababababababababababababababababababababababababababiifkhihifkh",
      "ihincCabbeabadcbbeaddcbihkcbbeaMzaBhpeaBGlzCTqBvbadbbababagacakabababababababababababa",
      "babababababababababababababababababababababababababababababababababababababaiabaeamBlb",
      "afaBTWdababababababababababababababababababababababatabababababababababababababaFfabab",
      "ababababadababababababababababababababababababababababababababababababakabacababababae",
      "aeabbcabababababababababalabababababababaeabacabababababababaBaaBHcaBcDbBEAigmeBOzzBVh",
      "BnFgBjFzkbobgbbCRbByEvvEGoBfBGJwBfChyBUIgBh"] },
    { names := ["dash"]
      packed := ["BtaCAuaBzaFKjaBNpaDBdfCjaBnapaPaaEOiacaBfbeaBcaReataEhaCZWabBlakaGnaFLoaMga"] },
    { names := ["defaultignorablecodepoint", "di"]
      packed := ["GraZxaBBoaEGwbCKhbDheDApeBaeBxpGKyaCZMppJfaGeaDbiCTLndHWxhBTKZlGBn"] },
    { names := ["deprecated", "dep"]
      packed := ["MraBYvaDKtabaDCjbDIjfBAvbBZRYka"] },
    { names := ["diacritic", "dia"]
      packed := ["DqabaCtagaeacbTjGcbhffrbeajbJteIbaCdBsbabbbbbaFbhebFebebdcCpBaDnkCgkBibEwhBpjqBbCjaqad",
      "dBcaCwaqaEgaqaEgaqaBvcCiaqahaEpaEgaqaEgaqaEfbqaEuaEhamfbaEdaneCxbBbababaebCocbbCkaEiab",
      "bBobeezgbakbBBdcBKmbBeaFskjaNjcLgauhcaBwockdoclCuapaBmiCcbCgalbCobCmfDeyeagaccByCkBwBj",
      "flBlkRdabclcncncnbEXkcMfaTmfEbdDraBSMkambbaBcbDeboBhDycDyagbmaBlaFvaBbrCfdBkaDramaBkaF",
      "tcCndBzaDwejcEybBDZsaBDppKkabaBvaBtbCpaBDkaBTnfbBpbiYnceaGjbVzfBmaBaePgaccCskBxdHkaBpa",
      "CubEqbCkaCyajcEabGwbDcbqaygdeDlcbbnbDradaEtbJrbEwaEobElaKjbJybeaGaaDfasaDdaQfaJyabbDda",
      "CnaNvbxaHYaoQZpaDSaeChgVsbVaqDcbYGcdbgbbLThBtcwUycdfihcgBedFMwCjHmgOlaCjdBDmbBCigEfcbc"] },
    { names := ["emoji"]
      packed := ["BjagafjEhaeaLYramaIiawaDmfpbOdbmaGkazkecHraIxbkajaCgdbejacacbcaeacabbcadadbicfabafllbc",
      "abbbasacbsfbabbdbfacbeblbfbcafbbabbubffbdcaeacacfbacababagadagakbpacaeabaecbalbBwcjaoa",
      "oaOibRvctbBzaeaBVuamaXdabaGMRqaHuaGebmboacjCxzbbxauacivbGsBhcEhcbbccDeccbKcbCklfbxhbch",
      "macdcaebnbcaibjafcmciccabaeagadagDhBwCrfhcddjdabbdacjItleaKxBubjbHcEimdkdCebaepclej"] },
    { names := ["emojicomponent", "ecomp"]
      packed := ["BjagafjMBjaIfaDFTraDOIwzTneCEadBSVUqDr"] },
    { names := ["emojimodifier", "emod"]
      packed := ["HHIxe"] },
    { names := ["emojimodifierbase", "ebase"]
      packed := ["OLhaIlaqdGSJvaCiccaccEnbckvsdaecbchabayaHtbeavaebGscdeDfaqcjalaWdacaihgajjccCeaCjbbbba",
      "rcbmIvcBqi"] },
    { names := ["emojipresentation", "epres"]
      packed := ["NHqbHxddacaUbbvbBylBratanaibrbfbiafavahbbaeacahaebBcaBjabaecbaCjcyaoaBHbbBzaeaGPLeaHua",
      "HiacjCxzbayauacebcvbGsBgmibCrbvmBqeemqdadCsbabHecCkndbxsaBabnaDiDgBwCrgadccdddlbhiItle",
      "aKxBubjbHcEimdkdCebaepclej"] },
    { names := ["extendedpictographic", "extpict"]
      packed := ["GnaeaLYramaIiawaDmfpbOdbmaGkazkecHraIxbkajaCgdbejacacbcaeacabbcadadbicfabafllbcabbbasa",
      "cbsfbabbdbfacbeblbfbcafbbabbubffbdcaeacacfbacababagadagakbpacaeabaecbalbBwcjaoaoaOibRv",
      "ctbBzaeaBVuamaXdabaGMRqaBndDwlpbpaobBljEibmboacjtCdBbokauacibdjwgHfcEhcbbccDeccbdfJtbC",
      "klfbxhbchmacdcaebnbcaibjafcmciccabaeagadagDhBwCrfhcqdabfcmIkBlmdCehkfBohBebmdcnjBmmBub",
      "jbHcDkhoFpJwBNh"] },
    { names := ["extender", "ext"]
      packed := ["HbaUqbBHuaQzaYgaFhaDlaBCyaExaDNfaCeaXnaPiaCqaHKjaBreDzbDpcBQBuaCGsaBLaawaFhaEeavbBFZva",
      "DBkbCFbaBbaeaBVbaLhaEmbTecBVjaBGaaBDIebBTkbbaobBQXkbBUfaBGuc"] },
    { names := ["graphemebase", "grbase"]
      packed := ["BgDqBhmbWvEihcfegbabtbIphGjbBlcBxccBuabacacajBaefrjlabBtvpbDwiagbcaeBfcabBdBdDklaoBqjg",
      "dxeajadahobyfabkfBfqBpCfCcbabdidbchjcBcbbbhcbcvbgbadddabbgbcbbanbbcexfabfebcvbgbbbbbbe",
      "cydbahjccbamabibcbvbgbbbeddiabbdapbelhaibbhcbcvbgbbbedacagbcbpbbcerlabfdcbddbbabbdbdcd",
      "lfabbdcbcdavugcbhbcbwbpdaddtcbbcbejhjbkbcbwbjbedbcabbxcbbejbcokbcbBocabbfcbcbbecbjezcb",
      "brdxbibacgjbgghjccmBvbblhimBlbbabebxbabjbbjacebajjcdBgxcBabababnbBjsafaceBxhbfbmBlBsea",
      "gacbcycddpembbcfbobBnbafacOmbdcgbabdcBobdcBgbdcgbabdcobCebdcCofBcdzgDhcfcZsdDkhrnsdbjr",
      "ombcpBzcahhbblidjgjgkfjgDkhecBhbafCrkBeedccebbfhadBpcelBrezgkdCecbdCdbajabbifnjgjgnDiB",
      "vkddhbBcjlcBfebgCdbaccbanBvibfodCjfBqcklanahdbfbccafHjCmKrcfcBlcfchbabababBecCabobncfb",
      "sccbibkfxhBwqbcBabmdBhCkFjeZpwkvCRrcOmdbfBsbafacCdhbpwjgbgbgbgbgbgbgbgBhDpBizbDkmIfBaC",
      "fgpbDheDwfBqbDpbDhjBvbBRIqdCcjNjuBueakBfcDbcfiImuqbcbdbyceejgCdiCpklymbBliylamBdgBvbbe",
      "bcbbmbkegbybBogbcblcbhbacjcBfbBybadbcecabayqchlfcfcfjgbgbCheEmbbbddjgQNrmweBwMNcObcEbB",
      "mgmefabxbebabbbbbYzBgpqjwBibsbdeebFeeGacBedfcfcfccdgbgnbclbzbsbbbocnBiEsfceBsdDjbmdaBv",
      "BsFbBcdBwqBaeBjjBdfBlkBdbBkenBqGbcjgBjeBjeBniBzllbobgbbbkbobgbbdBzmLyjvkhyfbBpbiCrfcab",
      "BrbbdacwbCtiiBwsbbfBgdBafBaBmCdetcBupdbcbBckihihClBgBkgljCbdBccBafzhdmgDcCuCdBynByhBpm",
      "jgBlixibIaBebBpdacbqfiiBnBnivliwredBmBbuwjabCbpgeBdbbcamBwebcbbdoyhjjBjfajriBibclBzjab",
      "hebbpbtlrbBbdbefbbClgbabdbobkgBubcnjibbhcbcvbgbbbedababdcbcbdamgBcjbacabBlbabbpabbdabc",
      "bbBnCdibdabubabcBeBvbbgabbbacacdijGkBubbgdcacBaBkByibbacdljgmtBqbabbibgjgtBcBadabbeajw",
      "HdBujacaDwDemhcachbbbxbebbgdbcjjCshcBpidbdBbakBngbehjagbdBtnacinCuhjDjadabaDkBhojgibBl",
      "oabfkBcdBfzahacaCxgbbbBlvajjgfbbbBkebbabahjgBrejJmscdjobBjibdwDiapBxnBJmDyEgbelHnDXkDu",
      "nBPfrfzFXqfWkKDdBdmcdjCOsVwhBebjeDcbjgBdhakBvhokjbgbufsQqCfHqDmfycyBsCwfCdlmCmdoejKXxB",
      "pBfDtEkMWrdbgbbbLepaBdccaodiPfDKuEcfmdihjcacaFVkJsdQtgwpqDrElCiJlkBmcChfcwbhBdeCivCnda",
      "EstmtmDijyFfDgbCsbbcacbcdblbabgbCmbdchbgbBbbdbebadgbNbcLfcVpCddByhbnbgBRwBegfKbCjFqBsk",
      "gcjebMiBdsBrejfaRwBbejIgBdckeaHkBebcbbbgcejbIqgbdbbbobHociBwCphaejebBEfCpCyCiHmdbBabbb",
      "acabjbdbabagaeabababcbbbacabababababbbacdbgbdbdbabjbqfcbebqCabKkBreDvmocobobBkkGrCeBcn",
      "BreihbofFyBLwdqdmdIjgleapleCdijgBniBdcleboiBnNfincmdkdCebaepclejhFqbDyBNpCLFbBgGMncIOb",
      "cLBkpXxDQwUvCFyHHyfMOn"] },
    { names := ["graphemeextend", "grext"]
      packed := ["BDoEhKpgKdBsbabbbbbaCukBwuqaDxgcfcbbdBjaBeBaDnkCgijaydbibcbeBrcChiBqxbBfCdabaeheadgkbB",
      "daCgabacdiajakbBaacbCfaebebccdaBebdalbCfaeebbeaubwfbaCgabbbdiahckbBeaChabamajaBoadaCda",
      "bcfcbdhblbBdaCgacbbadcbdhblbBcbCfbbacdiajakbBdaCuaeaccbaiaDdacgmhDuacilgCvbBbababaCdnb",
      "ebbfkbBjjaDydbfbbcbzbecqdnacbgapaBBbcBKkdBccBdbBebCmbbgiackjaBtcbaEnbBiaEocebjagcIlbca",
      "CgabgbabachgjcaBwBtcludBwjecBmimbBgdcfCeabbdabeCehcbFwcbmbgeagadbHqClUeaHnBgEOccFlaDsB",
      "fVifEbbBSQedbjBgbDcbKmadaeazbfaFvbBarnaBmhzkbaBscBwacdcbcaBkaCpfcbcbmaiaBvaBzabccbfbba",
      "BqbiaJeacaeaBDZsaBCjpqpOcbXhaIsaFteCMgcbbfdBoceaGjbWbdCneMfbCzfCskBxdEtaCcoBpacbkcBxdc",
      "bhaCjcBkebhCkambCaibaidcaDrccdgacaGbadhvbCfbbabamajaogdeCpacfbacabcecbaobDhhccbaxaDdac",
      "fbacabbbbJbacdgbbbBbbDhhcabbEcabachDxabacdbeJzibbJlakdeaFodcbeaBgjBofcdiajfccBumbbHqab",
      "cbaHtgbfbaDevcgbbbbEsfdabbbgbaCubdabaNjblbCaefcxaHXtagoQYyldcDSaeChgBOiaCldDdalbBDAxbG",
      "YzBtcwUwedfihcgBedFscCYdCceBxiaoaweboCAigbqcgbbbeDwaGegOlaCjdTodJubJjacahbfaSggEfgBTCA",
      "fDrEyJf"] },
    { names := ["graphemelink", "grlink"]
      packed := ["DNpaExaExaExaExaExaExaExaEfbqaEuaEhaExaHtaGybCPlbBeaGbaZdaItaDxbCsbGQtaBUKkaBlaFvaFmaE",
      "eaLxaJmaBJSraCHiaBpaoaCfaErbFjaEmaGyaDuaEycEjaExaJsaExaEoaEmaKjaJzbGfaDfasaDdaQfaKabDd",
      "aQjbYZca"] },
    { names := ["hexdigit", "hex"]
      packed := ["BwjhfBafDSLljhfBaf"] },
    { names := ["hyphen"]
      packed := ["BtaExaBVwaGZzaDBdbFIbaBClaCZUlaGnaDja"] },
    { names := ["idsbinaryoperator", "idsb"]
      packed := ["SEabcjTda"] },
    { names := ["idstrinaryoperator", "idst"]
      packed := ["SEcb"] },
    { names := ["idsunaryoperator", "idsu"]
      packed := ["SEob"] },
    { names := ["idcompatmathstart"]
      packed := ["MWwaeawaGJJeazaBfazaBfazaBfazaBfaza"] },
    { names := ["idcompatmathcontinue"]
      packed := ["GwbfaMAgadkboOhaeawaGJJeazaBfazaBfazaBfazaBfaza"] },
    { names := ["idcontinue", "idc"]
      packed := ["BwjhzeabzBvakabacafwbBebRpeloehabarEmbbcdbagebabtbDebFibecGjbBlcagBoiBsbabbbbbaiBaedBd",
      "kfCveDxbhcjbscaqCgcDwoCbeacacBtsBbekfxbghCwbEycjbsbhcbcvbgbaddcicbcdiaebbeclkabaccbfeb",
      "cvbgbbbbbbcabeebccdahdbahplcbibcbvbgbbbecjbcbccapdcjjgbcbhcbcvbgbbbecicbcchcebbecjbaqb",
      "bfdcbddbbabbdbdcdleedcbdcagaojqmbcbwbpcibcbdhbbcbbcdcjqdbhbcbwbjbecibcbdhbfcbdcjbcmmbc",
      "bBybcbefdhecjkfbcbrdxbibacgdaefbabhgjcbnCffobjBnbbabebxbabwcebabgbjcdBgaxbgjlababaejbB",
      "jetbrbBjjaCfCvgCzcBlbafacBqbMubdcgbabdcBobdcBgbdcgbabdcobCebdcCoccjiopqDhcfdXvcqbzfCwd",
      "khvjvltmmbcbbmDfdaebcjBhcbkgDkhBqfCrkBeblelkBncelBrezgkBlBbeCkbBcckgjnainbBecluCydjrim",
      "ElmCdijdBwckfBqccqcbBmfUncfcBlcfchbabababBecCabgbadcbgddcfemfcbgpbBxbtaBcanaqmBzmeadlr",
      "aeacjbacfgabababpcdfeearBoDZbIugimBlbafacCdhapxjgbgbgbgbgbgbgbgbBfTxczobeceeDhcgbDqfBq",
      "bDprBfBwpTsJTnCmBGUeCpBtcKidBbuBvejbEkBlicDycDduCceatBzmCrkjgxdabBwcBjmBcdCmokgBebCcjn",
      "cjgwdCuyccpcekfcfcfjgbgbBqbngEsbbcjgQNrmweBwMNcObcEbBmgmeflbmbebabbbbbEdBhNysClcCbBole",
      "pqpdbycBgebFetjhzeabzkDldfcfcfccBjlbzbsbbbocnBiEsCrCaFgaFaBcdBwpaBfBfnBdfBqfBdcBjehbeB",
      "qGbcjgBjeBjeBniBzmkbobgbbbkbobgbbdBzmLyjvkhyfbBpbiCrfcabBrbbdacwkwjBeCnsbbkvkzgzBmCdgb",
      "CmdbbfhbcbBccceaBgBcdBcBjhbBdzCbkvksnrEgCuCdBynBynBnijgBldebwJqBpbbdbqfByBikaiBgBfvBqu",
      "BbwjCsBfpjChhanyhjgCabjediBjcajCqedbmbaBjrbBkgdCkgbabdbobjhCgfjgdbhcbcvbgbbbebjcbcccag",
      "afgcgdeljbacabBlbjbacabdbhnbBdCwfjedBeCrbaijGkCbcixfBiCmdaljBmCehjgtBcBacoejggHdCgDxCv",
      "vhcachbbbBdbbcimjCshcBtchbbBbCkiaiCvdasCuDzhDkBgpjgibBsbipjyBdcvbnCvgbbbBrdabbbiijgfbb",
      "bBkbbbfhjgBrejJmwjqbBodenkDhaDbBJlDyEgrHnDXkDspBPfqvkFXqfWkKDdCfCOsVwhBebjgDabjgBdcelC",
      "cjdmjjufsQqBsdjHqClBgycyBsCweCehqCmbbblgjKXxBpBfDtEkMWrdbgbbbLepaBdccaodiPfDKuEcfmdihj",
      "dbGErjTyBtcwUwedfihcgBedFscRbDgbCsbbcacbcdblbabgbCmbdchbgbBbbdbebadgbNbcybybBebybBebyb",
      "BebybBebybhcBxTsCceBxiaoaweboBQmBegfIfgbqcgbbbefCjBhaEiBsdncjeaMjBerCfScBpIgBqHpBebvib",
      "IqgbdbbbobHolgBpCxejBTudbBabbbacabjbdbabagaeabababcbbbacabababababbbacdbgbdbdbabjbqfcb",
      "ebqFAajBNqCLFbBgGMncIObcLBkpXxDQwUvCFyHHyfMOnBOGXyJf"] },
    { names := ["idstart", "ids"]
      packed := ["CnzgzBvakaeafwbBebRpeloehabaEzebbcdbagabcbabtbDebFiiGjbBlcagBoCtBaedBtBqBjbbDubapbhbkc",
      "caqabBdBdDklayBgjbeafveajadaxyhkfxbgqBpCgCbdasahjppehcbcvbgbadddaqanbbcobkaifebcvbgbbb",
      "bbbBfdbatcqibcbvbgbbbedasapbxalhcbcvbgbbbedaBebbcparabfdcbddbbabbdbdcdlwaCahbcbwbpdaBa",
      "cbbcbBeaehbcbwbjbedaBecbbpbribcbBocaqafcicyffrdxbibacgCgBvbbmgCgbbabebxbabjbbjacebavdB",
      "gaClhbBjBbeElBquaqfeddadbhcemmarBlbafacBqbMubdcgbabdcBobdcBgbdcgbabdcobCebdcCoBlpqDhcf",
      "dXvcqbzfCwdkhrnsorombcpBzBjaeaCpDkhBobafCrkBeBxBdcelBrezCcwjCaDeaDpBurhCcBdnbkBrBaBjBp",
      "ckBjckfBqccBpdbfbbdafHjCmKrcfcBlcfchbabababBecCabgbadcbgddcfemfcbgEmanaqmDxaeacjbacfga",
      "bababpcdfeearBoDZbIugddbmBlbafacCdhaqwjgbgbgbgbgbgbgbgVecziheceeDheebDlbdfBqbDprBfBwpT",
      "sJTnCmBGUeCpBtcKidpkbuBuqBecDbBnicDycDduqbcbdbwBdBzoBxCkfdabblBbkwzBchBuBcaqebjkebBoxc",
      "bhuwdadBxbadbcecabaycckhcmfcfcfjgbgbBqbngEkBdQNrmweBwMNcObcEbBmgmefabjbmbebabbbbbEdBhN",
      "ysClcCbBolEmebFeBkzgzlDkdfcfcfccBjlbzbsbbbocnBiEsCrCaKhBcdBwBvBfnBdfBlkBdcBjehbeBqGbsB",
      "jeBjeBniBzmkbobgbbbkbobgbbdBzmLyjvkhyfbBpbiCrfcabBrbbdacwkwjBeCnsbbkvkzgzBmCdgbCmapdbc",
      "bBcBqBcdBcBjhbBbBbCbkvksnrEgCuCdBynBynBjBmBbjwJqBpgbqfCeBckaivBqrBuuBbwmCaCfbcanBsBgyB",
      "aBjBdacaiBidamBvodvabaBjrbytbClgbabdbobjhBuBmhcbcvbgbbbedasameBejbacabBlbazabaBsCasduc",
      "BeBvubbaHcBuBpdBkBvuaChBqnaCtBaBlgHdBrEmClBfhcachbbbxpabaDqhcBmqabaBcakBnhavalBttasCuH",
      "rBgBfibBkraBxBdEigbbbBlvazfbbbBfoaxBrKaspabmbBhEuaDbBJlDyEgrHnDXkDspBPfrfzFXqfWkKDdBdC",
      "PuVwhBerDarBdsBvqdBfufsQqBsIdClBgycyBsCwfaComCmbbaoejKXxBpBfDtEkMWrdbgbbbLepaBdccaodiP",
      "fDKuEcfmdihjIWkDgbCsbbcacbcdblbabgbCmbdchbgbBbbdbebadgbNbcybybBebybBebybBebybBebybhCSy",
      "BegfKbCjFqBskgqaMjBdsBrSqBbIuBdcaHzBebcbbbgcejbIqgbdbbbobHoChCphaBUidbBabbbacabjbdbaba",
      "gaeabababcbbbacabababababbbacdbgbdbdbabjbqfcbebqGOaCLFbBgGMncIObcLBkpXxDQwUvCFyHHyfMOn"] },
    { names := ["ideographic", "ideo"]
      packed := ["SEwbziocBLdJTnCmBFBjBHSiObcEbBSIkanejKXxBpBfDtEkNLlPfBDEiCLFbBgGMncIObcLBkpXxDQwUvCFyH",
      "HyfMOn"] },
    { names := ["joincontrol", "joinc"]
      packed := ["MDob"] },
    { names := ["logicalorderexception", "loe"]
      packed := ["FKieEteEDsccaCCXmbcabb"] },
    { names := ["lowercase", "lower"]
      packed := ["DtzBvakaeaBkxbhbabababababababababababababababababababababababababababbbababababababab",
      "bbababababababababababababababababababababababacababccabacadbeacadccacababacabbbacadab",
      "acbccgacacababababababababbbababababababababbcabadabababababababababababababababababab",
      "abababababababababababgcacbbaeababababCqcBihbBeeDsaBrabadacdsaBbBibbdcbabababababababa",
      "babababebacacbBzBvbababababababababababababababababajababababababababababababababababa",
      "babababababababababacababababababbbabababababababababababababababababababababababababa",
      "babababababababababababababababababababababaBwBoEHbBqbdBDgfDFuibaEnHjCnabababababababa",
      "bababababababababababababababababababababababababababababababababababababababababababa",
      "babababababababababababababababababababababababibababababababababababababababababababa",
      "babababababababababababababababababababababababababababababiifkhihifkhihinchihihiebbga",
      "dcbbidcbihkcbbEranaqmEfadbdaBbaeaeacbideaBhpeaBGlzCTqBvbadbbababaeabbbhdababababababab",
      "ababababababababababababababababababababababababababababababababababababababababababbh",
      "abaeamBlbafaBTWdababababababababababababababababababababababatabababababababababababab",
      "abcFdababababababcbababababababababababababababababababababababababababababababjbabaca",
      "babababaeabacabcbabababababababababafafabababababababaeabacabababababababavdbabcBFpBqb",
      "ngDbBEAigmeBOzzBVhBnFgBjFzkbobgbbRjaccbBpbiBXlByEvvEGoBfBGJwBfChyBMJezBagbrBazBadbabgb",
      "kBazBazBazBazBazBazBazBazBaBbBcybfBaybfBaybfBaybfBaybfbaCSyjbtgfKbCjDHsBh"] },
    { names := ["math"]
      packed := ["BraqcBfaBdabaBtaeaBlaBfaBCaccaBabccUhcJWnaBbcladanaodveleCnmeadbeesaeacjbacfgadbcbbcbf",
      "dnbaCqxbfbbebeBfbagboKhidubDmaBeBabayalgRdbmjefebcbdeoabacflhfbCfabaBddjcMyClJwTrBwucf",
      "DASqaBFrfbaGgaqcBdabaBdabaFbagdFEfbCVGaaBXvDgbCsbbcacbcdblbabgbCmbdchbgbBbbdbebadgbNbc",
      "LfcBxIIqdbBabbbacabjbdbabagaeabababcbbbacabababababbbacdbgbdbdbabjbqfcbebqCabDTei"] },
    { names := ["modifiercombiningmark", "mcm"]
      packed := ["CKibcaFbagadbSnbbcdaBfa"] },
    { names := ["noncharactercodepoint", "nchar"]
      packed := ["DSDcBfUgbDSYobDSYobDSYobDSYobDSYobDSYobDSYobDSYobDSYobDSYobDSYobDSYobDSYobDSYobDSYobDS",
      "Yob"] },
    { names := ["otheralphabetic", "oalpha"]
      packed := ["BGfaBdmWenbabbbbbaCukBwmbgqaDxgedcbeaBjaBepDykDxbdibcbdEcaCildggtCcbcobbfckbBdcCggcbcb",
      "kakbBdcCgeebcbeaBebdalcCghbcbbvbwcecCggcbcbjbkbBeaChedcbckaBoeCfgbcbciblbBdcCggbcbcibl",
      "bpamdCggbcbckakbBdcCxfbabhsbCjacgsaDvacfbbqaGhsjkbBjEglbacdxdecbccgddnlbakdCLobBebBebB",
      "ebCosHgbBiaEoleiIoeCfjctCwblcBxeBwoCicBeicbCfkBysPwBhCOnBzDKgBfBTQahBibNqaiaxeDkbBypba",
      "CfaBmeBclBtdBwlBlaCpnmaibBtcByabccbfaBsefaJdhBDZvaDEdeCMgcbbfdBEidCnaMjbCzcJzcCbnBtblc",
      "BtijaCjcBklsbCfcBwmobDoicagacaGbjxdCggcbcbkakbDgibacabdbbDzmbcEcrJdgcgBdbDeobaEckDznJx",
      "mJnfbbcbdabaFmgcfeaBcjBqebdskBunHshHrhbgDfvbnEsfdabbbcbadaCoebbbdNkdjbbaBwgdcYYnqFJcab",
      "CchdDpbBDAyaNKjgbqcgbbbeDwaCKhacahbfaWvaCZwzgzgz"] },
    { names := ["otherdefaultignorablecodepoint", "odi"]
      packed := ["BGpaFIlbCKhbDHnaGLiaDACpaDbiBWMIhabBdDsExJgFIl"] },
    { names := ["othergraphemeextend", "ogrext"]
      packed := ["DRyayaNuayaDyayaIyabaebbbjbDzayaEpapaDMraBeaBNkafabafbDxaCtbBOiaGCvbBTWtaEeaBGNlbGWmaE",
      "maKeaoajaDsajacabcfaIqamaJhaKcaYjamaCHfaBEOkbBKXnbgfBTLAzDr"] },
    { names := ["otheridcontinue", "oidc"]
      packed := ["HbaBBraGAjiCLcaCIzbGKraDAEja"] },
    { names := ["otheridstart", "oids"]
      packed := ["JHlbDGjavaFVwb"] },
    { names := ["otherlowercase", "olower"]
      packed := ["GoapaThihbBeeDsaCaaFCzaEPzCknaBiBkBAnanaqmIdpBGqzCWobBUGkbIcaEyddbBHidjaBIWsaccbBpbiDD",
      "ZhCj"] },
    { names := ["othermath", "omath"]
      packed := ["DqaBHxccaBabcbKQyaBbclaBgdybobCnmeadbeesaeacjbadegadbcbbcbfddfeCxecdbbbbbabecbebercbba",
      "bgbagbLedGmbbayaraRdbmifefbcbdeoabacfybCfabaBddjbNebBfjPnvCldBgbDCLfabaeaIdabaDCOvDgbC",
      "sbbcacbcdblbabgbCmbdchbgbBbbdbebadgbNbcybybBebybBebybBebybBebybhcBxIIqdbBabbbacabjbdba",
      "bagaeabababcbbbacabababababbbacdbgbdbdbabjbqfcbebq"] },
    { names := ["otheruppercase", "oupper"]
      packed := ["MQqpBGgzGSIyzgzgz"] },
    { names := ["patternsyntax", "patsyn"]
      packed := ["BhokgBadbaBadBigbabbbabbeaeadaxaBfaLUexiocsbjLtBBrGeYfBeBRnTsExOvceypaCZQzbKbb"] },
    { names := ["patternwhitespace", "patws"]
      packed := ["jesaDwaLYmbyb"] },
    { names := ["prependedconcatenationmark", "pcm"]
      packed := ["CHcfIhaBxaOubDcaDVXyapa"] },
    { names := ["quotationmark", "qmark"]
      packed := ["BiaeaFbapaLWuhzbFIdaRpdncDABpdHhaeaDmb"] },
    { names := ["radical"]
      packed := ["RPwzbDkmIf"] },
    { names := ["regionalindicator", "ri"]
      packed := ["HGOkz"] },
    { names := ["sentenceterminal", "sterm"]
      packed := ["BhamaqaCAbaFrcGyaBrcJmaCjabadbLhbCPwbBEkaebBDtaHqbGbbBtafaMcbNqdGgbkbcbBdcHfbCnbBJwaxb",
      "jcEUxcLuanawbQnaBSHwaKkbItadaOsbDibDraFwbFrcFobJpaBFCwacbChadbGnamaqaCnaEDwbBXdeBsdHhb",
      "EndExcEzbgaqbDkbbbEeaLmbEnbOjbfoEbbJpcTxabaJrbDjbQebBAqbCwbBCMbbFdaCnblaVhbLkaBDOgaLIm",
      "a"] },
    { names := ["softdotted", "sd"]
      packed := ["EbbHoaKvaBeaCaauaMiaDuabaJMnaBzanadaFcaGbaQfaIgbEGgaGELhbBybBybBybBybBybBybBybBybBybBy",
      "bBybBybDFyaLtbBaa"] },
    { names := ["terminalpunctuation", "term"]
      packed := ["BhakabalbdaBFyaiaTtaCfaCuaoabcGyaBrkbaJbbCcfbhBfaKbbBWubGqaefLzbBEjhBDtaEucCtbGbcdaBnd",
      "cbMcbNqdGgbkbbcBdcHfeCkbBJwaxbjcEUxcLuanaeakabbdbQmbBSHvbKjcIteOsbDibDraFvcFrcExaqbJpa",
      "BFCwacbCfcbdGnakabalbdaCnacaBPqaBwaBSoaHraLybFwfCqfDldBKqeBsdHhgEidExcEzbgaqbDkeEeaLmb",
      "EncmbNuddoEbbJpcTxabaJrbDjbebPycBtaYvbCwbBYxeBAMzbFdaCnckaVhbLjbBDOgaLIld"] },
    { names := ["unifiedideograph", "uideo"]
      packed := ["TSaJTnCmBFBjBICsbbabbkababbccDVEcCLFbBgGMncIObcLBkpXxGRqHHyfMOn"] },
    { names := ["uppercase", "upper"]
      packed := ["CnzDxwbgBhabababababababababababababababababababababababababababacabababababababacabab",
      "abababababababababababababababababababababbbabadbbabbbccdbbbcdbbbbababbbacabbbcbabbdah",
      "acacacabababababababacababababababababacacabcbabababababababababababababababababababab",
      "ababababababababahbbbcabdbabababaLdabadaiagabcbabbbqbiBjaccdabababababababababababafac",
      "abbcByBwababababababababababababababababajabababababababababababababababababababababab",
      "abababababbbabababababacababababababababababababababababababababababababababababababab",
      "ababababababababababababababababacBlEHdBlbafaBBuDhDGlagBqccMiababababababababababababa",
      "bababababababababababababababababababababababababababababababababababababababababababa",
      "bababababababababababababababababababajabababababababababababababababababababababababa",
      "bababababababababababababababababababababababababajhifkhihiflabababaihCudmdmdmeldKcaea",
      "dccccadegabababdcdkbfaBaptaBFmzCSuBvBwabccabababdbacaicbababababababababababababababab",
      "abababababababababababababababababababababababababababababababababaiabaeaBTYjababababa",
      "babababababababababababababababababatabababababababababababababaFfababababababadababab",
      "abababababababababababababababababababababababababababakababbbabababaeabacabadabababab",
      "ababababababebebabababababababdbabbbabababababababayaBHAhzBUzBnFgBjGakbobgbbCQcByGbvEG",
      "oBfBGJwBfCmyBMJfzBazBazBaabbcacbcdbhBazBabbdchbgBbbbdbebadgBbzBazBazBazBazBazBeyBhyBhy",
      "BhyBhyBhaGNlBhDBizgzgz"] },
    { names := ["variationselector", "vs"]
      packed := ["JCtcbaDJCapBWNKyJf"] },
    { names := ["whitespace", "wspace", "space"]
      packed := ["jesaDwaBaaIHjaDPnkBdbfaBvaFXwa"] },
    { names := ["xidcontinue", "xidc"]
      packed := ["BwjhzeabzBvakabacafwbBebRpeloehabarEmbbdcbagebabtbDebFibecGjbBlcagBoiBsbabbbbbaiBaedBd",
      "kfCveDxbhcjbscaqCgcDwoCbeacacBtsBbekfxbghCwbEycjbsbhcbcvbgbaddcicbcdiaebbeclkabaccbfeb",
      "cvbgbbbbbbcabeebccdahdbahplcbibcbvbgbbbecjbcbccapdcjjgbcbhcbcvbgbbbecicbcchcebbecjbaqb",
      "bfdcbddbbabbdbdcdleedcbdcagaojqmbcbwbpcibcbdhbbcbbcdcjqdbhbcbwbjbecibcbdhbfcbdcjbcmmbc",
      "bBybcbefdhecjkfbcbrdxbibacgdaefbabhgjcbnCffobjBnbbabebxbabwcebabgbjcdBgaxbgjlababaejbB",
      "jetbrbBjjaCfCvgCzcBlbafacBqbMubdcgbabdcBobdcBgbdcgbabdcobCebdcCoccjiopqDhcfdXvcqbzfCwd",
      "khvjvltmmbcbbmDfdaebcjBhcbkgDkhBqfCrkBeblelkBncelBrezgkBlBbeCkbBcckgjnainbBecluCydjrim",
      "ElmCdijdBwckfBqccqcbBmfUncfcBlcfchbabababBecCabgbadcbgddcfemfcbgpbBxbtaBcanaqmBzmeadlr",
      "aeacjbacfgabababpcdfeearBoDZbIugimBlbafacCdhapxjgbgbgbgbgbgbgbgbBfTxczobeceeDhcbccbDqf",
      "BqbDprBfBwpTsJTnCmBGUeCpBtcKidBbuBvejbEkBlicDycDduCceatBzmCrkjgxdabBwcBjmBcdCmokgBebCc",
      "jncjgwdCuyccpcekfcfcfjgbgbBqbngEsbbcjgQNrmweBwMNcObcEbBmgmeflbmbebabbbbbEdBhFigIjsClcC",
      "bBojgpqpdbycBhabadababababEvtjhzeabzkDldfcfcfccBjlbzbsbbbocnBiEsCrCaFgaFaBcdBwpaBfBfnB",
      "dfBqfBdcBjehbeBqGbcjgBjeBjeBniBzmkbobgbbbkbobgbbdBzmLyjvkhyfbBpbiCrfcabBrbbdacwkwjBeCn",
      "sbbkvkzgzBmCdgbCmdbbfhbcbBccceaBgBcdBcBjhbBdzCbkvksnrEgCuCdBynBynBnijgBldebwJqBpbbdbqf",
      "ByBikaiBgBfvBquBbwjCsBfpjChhanyhjgCabjediBjcajCqedbmbaBjrbBkgdCkgbabdbobjhCgfjgdbhcbcv",
      "bgbbbebjcbcccagafgcgdeljbacabBlbjbacabdbhnbBdCwfjedBeCrbaijGkCbcixfBiCmdaljBmCehjgtBcB",
      "acoejggHdCgDxCvvhcachbbbBdbbcimjCshcBtchbbBbCkiaiCvdasCuDzhDkBgpjgibBsbipjyBdcvbnCvgbb",
      "bBrdabbbiijgfbbbBkbbbfhjgBrejJmwjqbBodenkDhaDbBJlDyEgrHnDXkDspBPfqvkFXqfWkKDdCfCOsVwhB",
      "ebjgDabjgBdcelCcjdmjjufsQqBsdjHqClBgycyBsCweCehqCmbbblgjKXxBpBfDtEkMWrdbgbbbLepaBdccao",
      "diPfDKuEcfmdihjdbGErjTyBtcwUwedfihcgBedFscRbDgbCsbbcacbcdblbabgbCmbdchbgbBbbdbebadgbNb",
      "cybybBebybBebybBebybBebybhcBxTsCceBxiaoaweboBQmBegfIfgbqcgbbbefCjBhaEiBsdncjeaMjBerCfS",
      "cBpIgBqHpBebvibIqgbdbbbobHolgBpCxejBTudbBabbbacabjbdbabagaeabababcbbbacabababababbbacd",
      "bgbdbdbabjbqfcbebqFAajBNqCLFbBgGMncIObcLBkpXxDQwUvCFyHHyfMOnBOGXyJf"] },
    { names := ["xidstart", "xids"]
      packed := ["CnzgzBvakaeafwbBebRpeloehabaEzebbdcbagabcbabtbDebFiiGjbBlcagBoCtBaedBtBqBjbbDubapbhbkc",
      "caqabBdBdDklayBgjbeafveajadaxyhkfxbgqBpCgCbdasahjppehcbcvbgbadddaqanbbcobkaifebcvbgbbb",
      "bbbBfdbatcqibcbvbgbbbedasapbxalhcbcvbgbbbedaBebbcparabfdcbddbbabbdbdcdlwaCahbcbwbpdaBa",
      "cbbcbBeaehbcbwbjbedaBecbbpbribcbBocaqafcicyffrdxbibacgCgBvbangCgbbabebxbabjbakacebavdB",
      "gaClhbBjBbeElBquaqfeddadbhcemmarBlbafacBqbMubdcgbabdcBobdcBgbdcgbabdcobCebdcCoBlpqDhcf",
      "dXvcqbzfCwdkhrnsorombcpBzBjaeaCpDkhBobafCrkBeBxBdcelBrezCcwjCaDeaDpBurhCcBdnbkBrBaBjBp",
      "ckBjckfBqccBpdbfbbdafHjCmKrcfcBlcfchbabababBecCabgbadcbgddcfemfcbgEmanaqmDxaeacjbacfga",
      "bababpcdfeearBoDZbIugddbmBlbafacCdhaqwjgbgbgbgbgbgbgbgVecziheceeDhgcbDlbdfBqbDprBfBwpT",
      "sJTnCmBGUeCpBtcKidpkbuBuqBecDbBnicDycDduqbcbdbwBdBzoBxCkfdabblBbkwzBchBuBcaqebjkebBoxc",
      "bhuwdadBxbadbcecabaycckhcmfcfcfjgbgbBqbngEkBdQNrmweBwMNcObcEbBmgmefabjbmbebabbbbbEdBhF",
      "igIjsClcCbBojEpabadababababEvBkzgzlCdcBedfcfcfccBjlbzbsbbbocnBiEsCrCaKhBcdBwBvBfnBdfBl",
      "kBdcBjehbeBqGbsBjeBjeBniBzmkbobgbbbkbobgbbdBzmLyjvkhyfbBpbiCrfcabBrbbdacwkwjBeCnsbbkvk",
      "zgzBmCdgbCmapdbcbBcBqBcdBcBjhbBbBbCbkvksnrEgCuCdBynBynBjBmBbjwJqBpgbqfCeBckaivBqrBuuBb",
      "wmCaCfbcanBsBgyBaBjBdacaiBidamBvodvabaBjrbytbClgbabdbobjhBuBmhcbcvbgbbbedasameBejbacab",
      "BlbazabaBsCasducBeBvubbaHcBuBpdBkBvuaChBqnaCtBaBlgHdBrEmClBfhcachbbbxpabaDqhcBmqabaBca",
      "kBnhavalBttasCuHrBgBfibBkraBxBdEigbbbBlvazfbbbBfoaxBrKaspabmbBhEuaDbBJlDyEgrHnDXkDspBP",
      "frfzFXqfWkKDdBdCPuVwhBerDarBdsBvqdBfufsQqBsIdClBgycyBsCwfaComCmbbaoejKXxBpBfDtEkMWrdbg",
      "bbbLepaBdccaodiPfDKuEcfmdihjIWkDgbCsbbcacbcdblbabgbCmbdchbgbBbbdbebadgbNbcybybBebybBeb",
      "ybBebybBebybhCSyBegfKbCjFqBskgqaMjBdsBrSqBbIuBdcaHzBebcbbbgcejbIqgbdbbbobHoChCphaBUidb",
      "BabbbacabjbdbabagaeabababcbbbacabababababbbacdbgbdbdbabjbqfcbebqGOaCLFbBgGMncIObcLBkpX",
      "xDQwUvCFyHHyfMOn"] } ]

end Transcript.Unicode
