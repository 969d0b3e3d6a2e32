import Transcript.Unicode.Packed

/-!
# Scripts

The characters of each script, and the wider sets of `Script_Extensions` where the two differ.
-/

namespace Transcript.Unicode

/-- The scripts, packed. -/
def scripts : List Packed :=
  [
    { names := ["adlm", "adlam"]
      packed := ["HDEuCxejeb"] },
    { names := ["aghb", "caucasianalbanian"]
      packed := ["DUXsBzla"] },
    { names := ["ahom"]
      packed := ["EBRcBacoew"] },
    { names := ["arab", "arabic"]
      packed := ["CHcebfbnbcbBfbjlzbEdbBhDcBvJgBhfCwbBcDNTwSzcFnBgpEiebFeFVnBeCpfiiBhfDGLsdbBabbbacabjbd",
      "babagaeabababcbbbacabababababbbacdbgbdbdbabjbqfcbebqCab"] },
    { names := ["armi", "imperialaramaic"]
      packed := ["DWBwvbi"] },
    { names := ["armn", "armenian"]
      packed := ["BZdBlcBxccDOZje"] },
    { names := ["avst", "avestan"]
      packed := ["DXCyCbdg"] },
    { names := ["bali", "balinese"]
      packed := ["KFwCybBx"] },
    { names := ["bamu", "bamum"]
      packed := ["CLCqDjCVCqVw"] },
    { names := ["bass", "bassavah"]
      packed := ["FHKiBdcf"] },
    { names := ["batk", "batak"]
      packed := ["KNgBzid"] },
    { names := ["beng", "bengali"]
      packed := ["DPodbhcbcvbgbaddcicbcdiaebbecy"] },
    { names := ["bhks", "bhaiksuki"]
      packed := ["EDOiibBsbnkBc"] },
    { names := ["bopo", "bopomofo"]
      packed := ["BCsbRLxBqEiBf"] },
    { names := ["brah", "brahmi"]
      packed := ["DZAeCzeBjja"] },
    { names := ["brai", "braille"]
      packed := ["PDwJv"] },
    { names := ["bugi", "buginese"]
      packed := ["JWaBbcb"] },
    { names := ["buhd", "buhid"]
      packed := ["IUyt"] },
    { names := ["cakm", "chakma"]
      packed := ["DZKaCabr"] },
    { names := ["cans", "canadianaboriginal"]
      packed := ["HOyYpVoCrDTPqp"] },
    { names := ["cari", "carian"]
      packed := ["DTYmBw"] },
    { names := ["cham"]
      packed := ["CMJwCcjncjcd"] },
    { names := ["cher", "cherokee"]
      packed := ["HLgDhcfCFJeDb"] },
    { names := ["chrs", "chorasmian"]
      packed := ["DYXcBb"] },
    { names := ["copt", "coptic", "qaac"]
      packed := ["BMgnPJkElfg"] },
    { names := ["cpmn", "cyprominoan"]
      packed := ["EKYyDu"] },
    { names := ["cprt", "cypriot"]
      packed := ["DVZkfcabBrbbdaca"] },
    { names := ["cyrl", "cyrillic"]
      packed := ["BNkFccGmIVokGeaCyaGFnBfBTOaDrBHEcbDHPgCjBha"] },
    { names := ["deva", "devanagari"]
      packed := ["DKqDceoczCIJgBfBREmj"] },
    { names := ["diak", "divesakuru"]
      packed := ["ECKugcachbbbBdbbcljj"] },
    { names := ["dogr", "dogra"]
      packed := ["ECAyCh"] },
    { names := ["dsrt", "deseret"]
      packed := ["DUMaDb"] },
    { names := ["dupl", "duployan"]
      packed := ["GMDsEcfmdihjcd"] },
    { names := ["egyp", "egyptianhieroglyphs"]
      packed := ["ELDgBQrkFXq"] },
    { names := ["elba", "elbasan"]
      packed := ["DUVwBn"] },
    { names := ["elym", "elymaic"]
      packed := ["DYYyw"] },
    { names := ["ethi", "ethiopic"]
      packed := ["GVgCubdcgbabdcBobdcBgbdcgbabdcobCebdcCocBfdzJVawjgbgbgbgbgbgbgbgBVKcfcfcfjgbgEPYfgbdbb",
      "bo"] },
    { names := ["geor", "georgian"]
      packed := ["GHsBlbafacBqbdEJwBqccGEaBlbafa"] },
    { names := ["glag", "glagolitic"]
      packed := ["QRgDrGIZggbqcgbbbe"] },
    { names := ["gong", "gunjalagondi"]
      packed := ["EEBwfbbbBkbbbfhj"] },
    { names := ["gonm", "masaramgondi"]
      packed := ["EDYegbbbBrdabbbiij"] },
    { names := ["goth", "gothic"]
      packed := ["DUEaBa"] },
    { names := ["gran", "grantha"]
      packed := ["EADsdbhcbcvbgbbbecicbcccagafgcgde"] },
    { names := ["grek", "greek"]
      packed := ["BHwdbccdbaeababcbabtbCkopJNqeByeeeDgaMivcfcBlcfchbabababBecCabobncfbsccbiLjaCAJeaBGNiD",
      "araDAXrCr"] },
    { names := ["gujr", "gujarati"]
      packed := ["DZlcbibcbvbgbbbecjbcbccapdclhg"] },
    { names := ["guru", "gurmukhi"]
      packed := ["DUncbfebcvbgbbbbbbcabeebccdahdbahq"] },
    { names := ["hang", "hangul"]
      packed := ["GLkJvLLebJxDpEjBeCnBeBTAnBcYtQNrmweBwPAiBedfcfcfcc"] },
    { names := ["hani", "han"]
      packed := ["RPwzbDkmIfBvabaziodBLcJTnCmBFBjBHSiObcEbBSIibmgCCOfCLFbBgGMncIObcLBkpXxDQwUvCFyHHyfMOn"] },
    { names := ["hano", "hanunoo"]
      packed := ["ITsu"] },
    { names := ["hatr", "hatran"]
      packed := ["DWIasbbfe"] },
    { names := ["hebr", "hebrew"]
      packed := ["CCvCciBaefDOVwzbebabbbbbj"] },
    { names := ["hira", "hiragana"]
      packed := ["SHdDhgcFPEvLasaBdcYMva"] },
    { names := ["hluw", "anatolianhieroglyphs"]
      packed := ["ESSeWk"] },
    { names := ["hmng", "pahawhhmong"]
      packed := ["FHMeCrkjbgbufs"] },
    { names := ["hmnp", "nyiakengpuachuehmong"]
      packed := ["HAEaBsdncjeb"] },
    { names := ["hung", "oldhungarian"]
      packed := ["DXRsBynByhf"] },
    { names := ["ital", "olditalic"]
      packed := ["DUCeBjjc"] },
    { names := ["java", "javanese"]
      packed := ["CMEyCzcjeb"] },
    { names := ["kali", "kayahli"]
      packed := ["CMAaBtba"] },
    { names := ["kana", "katakana"]
      packed := ["SKvDlccJgpIaBubDjCZHejbBsCOUcdbgbbbaLbcByaod"] },
    { names := ["kawi"]
      packed := ["EERwqbBodBc"] },
    { names := ["khar", "kharoshthi"]
      packed := ["DWTcdbbfhbcbBcccejhi"] },
    { names := ["khmr", "khmer"]
      packed := ["IXkDpcjgjSsBf"] },
    { names := ["khoj", "khojki"]
      packed := ["DZTwrbBu"] },
    { names := ["kits", "khitansmallscript"]
      packed := ["FJIiaKGxSbBpa"] },
    { names := ["knda", "kannada"]
      packed := ["ETcmbcbwbjbecibcbdhbfcbdcjbc"] },
    { names := ["kthi", "kaithi"]
      packed := ["DZFcCoka"] },
    { names := ["lana", "taitham"]
      packed := ["JXgCkbBcckgjgn"] },
    { names := ["laoo", "lao"]
      packed := ["FMvbbabebxbabwcebabgbjcd"] },
    { names := ["latn", "latin"]
      packed := ["CnzgzBvapafwbBebRgBneJXbBlgBwfdfmbCrCnJvOfanaqmFlbgaBbarBoECtBfBULmDxdDduoBFkBqbibdBED",
      "qgBOkzgzDCffbBpbiDDNpBegf"] },
    { names := ["lepc", "lepcha"]
      packed := ["KPsCddodc"] },
    { names := ["limb", "limbu"]
      packed := ["JMeBebleleadl"] },
    { names := ["lina", "lineara"]
      packed := ["DVFsLyjvkh"] },
    { names := ["linb", "linearb"]
      packed := ["DSYqlbzbsbbbocnBiEs"] },
    { names := ["lisu"]
      packed := ["CKKuBvBUMaa"] },
    { names := ["lyci", "lycian"]
      packed := ["DTXgBc"] },
    { names := ["lydi", "lydian"]
      packed := ["DWKmzfa"] },
    { names := ["mahj", "mahajani"]
      packed := ["DZNcBm"] },
    { names := ["maka", "makasar"]
      packed := ["EEQqy"] },
    { names := ["mand", "mandaic"]
      packed := ["DDgBbca"] },
    { names := ["mani", "manichaean"]
      packed := ["DXAmBmel"] },
    { names := ["marc", "marchen"]
      packed := ["EDSqBfcvbn"] },
    { names := ["medf", "medefaidrin"]
      packed := ["FISeDm"] },
    { names := ["mend", "mendekikakui"]
      packed := ["HCUyHocp"] },
    { names := ["merc", "meroiticcursive"]
      packed := ["DWPkxetcBt"] },
    { names := ["mero", "meroitichieroglyphs"]
      packed := ["DWOeBf"] },
    { names := ["mlym", "malayalam"]
      packed := ["EYambcbBybcbfepcz"] },
    { names := ["modi"]
      packed := ["EBHgCqlj"] },
    { names := ["mong", "mongolian"]
      packed := ["JCibcabtgDkhBqDSCbm"] },
    { names := ["mroo", "mro"]
      packed := ["FHEuBebjeb"] },
    { names := ["mtei", "meeteimayek"]
      packed := ["CMSmwHtBtcj"] },
    { names := ["mult", "multani"]
      packed := ["DZYugbabdbobk"] },
    { names := ["mymr", "myanmar"]
      packed := ["GBoGdCGAyBeDtBfBPAmt"] },
    { names := ["nagm", "nagmundari"]
      packed := ["HBPoBp"] },
    { names := ["nand", "nandinagari"]
      packed := ["ECQyhcBtck"] },
    { names := ["narb", "oldnortharabian"]
      packed := ["DWYaBf"] },
    { names := ["nbat", "nabataean"]
      packed := ["DWEiBeii"] },
    { names := ["newa"]
      packed := ["EANoDnbe"] },
    { names := ["nkoo", "nko"]
      packed := ["CYiCgcc"] },
    { names := ["nshu", "nushu"]
      packed := ["FJIfaYVmPf"] },
    { names := ["ogam", "ogham"]
      packed := ["INoBc"] },
    { names := ["olck", "olchiki"]
      packed := ["KSuBv"] },
    { names := ["orkh", "oldturkic"]
      packed := ["DXMuCu"] },
    { names := ["orya", "oriya"]
      packed := ["EEjcbhcbcvbgbbbecicbcchcebbecr"] },
    { names := ["osge", "osage"]
      packed := ["DUSuBjeBj"] },
    { names := ["osma", "osmanya"]
      packed := ["DUQyBdcj"] },
    { names := ["ougr", "olduyghur"]
      packed := ["DYUqz"] },
    { names := ["palm", "palmyrene"]
      packed := ["DWDcBf"] },
    { names := ["pauc", "paucinhau"]
      packed := ["EDCaCe"] },
    { names := ["perm", "oldpermic"]
      packed := ["DUFgBq"] },
    { names := ["phag", "phagspa"]
      packed := ["CLSqCd"] },
    { names := ["phli", "inscriptionalpahlavi"]
      packed := ["DXGqsfh"] },
    { names := ["phlp", "psalterpahlavi"]
      packed := ["DXHwrhdmg"] },
    { names := ["phnx", "phoenician"]
      packed := ["DWJgBbda"] },
    { names := ["plrd", "miao"]
      packed := ["FIZoCweCehq"] },
    { names := ["prti", "inscriptionalparthian"]
      packed := ["DXFkvch"] },
    { names := ["rjng", "rejang"]
      packed := ["CMBwBjla"] },
    { names := ["rohg", "hanifirohingya"]
      packed := ["DXWqBnij"] },
    { names := ["runr", "runic"]
      packed := ["IOuCwdk"] },
    { names := ["samr", "samaritan"]
      packed := ["DAuBtco"] },
    { names := ["sarb", "oldsoutharabian"]
      packed := ["DWWuBf"] },
    { names := ["saur", "saurashtra"]
      packed := ["CLVcCril"] },
    { names := ["sgnw", "signwriting"]
      packed := ["GWTkZbpebo"] },
    { names := ["shaw", "shavian"]
      packed := ["DUPcBv"] },
    { names := ["shrd", "sharada"]
      packed := ["DZOyDrDPoh"] },
    { names := ["sidd", "siddham"]
      packed := ["EBCiCbcBl"] },
    { names := ["sind", "khudawadi"]
      packed := ["EAAqCgfj"] },
    { names := ["sinh", "sinhala"]
      packed := ["FCzcbrdxbibacgdaefbabhgjccDULgt"] },
    { names := ["sogd", "sogdian"]
      packed := ["DYSeBp"] },
    { names := ["sogo", "oldsogdian"]
      packed := ["DYQiBn"] },
    { names := ["sora", "sorasompeng"]
      packed := ["DZIeyhj"] },
    { names := ["soyo", "soyombo"]
      packed := ["ECXsDe"] },
    { names := ["sund", "sundanese"]
      packed := ["KKuClJwh"] },
    { names := ["sylo", "sylotinagri"]
      packed := ["CLQeBs"] },
    { names := ["syrc", "syriac"]
      packed := ["CQynbChccKmk"] },
    { names := ["tagb", "tagbanwa"]
      packed := ["IWembcbb"] },
    { names := ["takr", "takri"]
      packed := ["EBMeCfgj"] },
    { names := ["tale", "taile"]
      packed := ["JPgBdce"] },
    { names := ["talu", "newtailue"]
      packed := ["JRcBrezgkdb"] },
    { names := ["taml", "tamil"]
      packed := ["EJibbfdcbddbbabbdbdcdleedcbdcagaouEALhBxna"] },
    { names := ["tang", "tangut"]
      packed := ["FJIeaBfKFvTsBeDtEk"] },
    { names := ["tavt", "taiviet"]
      packed := ["CMOuCoye"] },
    { names := ["telu", "telugu"]
      packed := ["EOembcbwbpcibcbdhbbcbbcdcjhi"] },
    { names := ["tfng", "tifinagh"]
      packed := ["RCyCdhboa"] },
    { names := ["tglg", "tagalog"]
      packed := ["ISmvja"] },
    { names := ["thaa", "thaana"]
      packed := ["CVwBx"] },
    { names := ["thai"]
      packed := ["FHxCffBb"] },
    { names := ["tibt", "tibetan"]
      packed := ["FRsCtbBjeBmbBjbobgeb"] },
    { names := ["tirh", "tirhuta"]
      packed := ["EASmCtij"] },
    { names := ["tnsa", "tangsa"]
      packed := ["FHGqDabj"] },
    { names := ["toto"]
      packed := ["HATkBe"] },
    { names := ["ugar", "ugaritic"]
      packed := ["DUHcBdba"] },
    { names := ["vaii", "vai"]
      packed := ["CKMqLn"] },
    { names := ["vith", "vithkuqi"]
      packed := ["DVAekbobgbbbkbobgbb"] },
    { names := ["wara", "warangciti"]
      packed := ["ECHcDema"] },
    { names := ["wcho", "wancho"]
      packed := ["HAVgCffa"] },
    { names := ["xpeo", "oldpersian"]
      packed := ["DUIiBjen"] },
    { names := ["xsux", "cuneiform"]
      packed := ["EFBsBJlDyEgbelHn"] },
    { names := ["yezi", "yezidi"]
      packed := ["DYLkBpbccb"] },
    { names := ["yiii", "yi"]
      packed := ["CIPkBSudCc"] },
    { names := ["zanb", "zanabazarsquare"]
      packed := ["ECUqCt"] },
    { names := ["zinh", "inherited", "qaai"]
      packed := ["BDoEhKrbRkkBaaBCidGOxBtclSqcbmbgeagadbHqClUebHmBgFTxdEdbCZUjpqnBLnaIsaGFaaCTCuBtcwUycr",
      "hcgBedBTLHiJf"] },
    { names := ["zyyy", "common"]
      packed := ["aCmBafBaBubobexaBfaRhBmfectEmajagabaYnagaoadaBgaGaaTwaEzbBVtaPpdLeaCGlcCtbHvbbaBVhanah",
      "dbfbccaBDtlcDibkdkborBhCkBlbccfbBabqBpceZpwkvBJrJwYdcFhTsDpPmubabyphedDnbdaDmbFrpBgBlj",
      "aBwClBfDcBvaDkGlJToClBHSiBhDycGjjJkaGeaPfaobBEZqbIajwBibsbdFrabBfBafBakkaBtbCmgbgkeJyc",
      "eBsdiDcmBzBsIuBaCSHwdFVgJsdQtgwpqDrElCiJlkBmcCjdqibhBdeCiIftmtmDijyFfDgbCsbbcacbcdblba",
      "bgbCmbdchbgbBbbdbebadgbNbcLfcBxHThCpCyCiBBeBreDvmocobobBkkGrCezbbnBreihbofFyBLwdqdmdIj",
      "gleapleCdijgBniBdcleboiBnNfincmdkdCebaepclejhFqbDyBSUXaaBeDr"] },
    { names := ["gara", "garay"]
      packed := ["DXZcBldBcib"] },
    { names := ["gukh", "gurungkhema"]
      packed := ["FDRsCf"] },
    { names := ["krai", "kiratrai"]
      packed := ["FIIiCf"] },
    { names := ["onao", "olonal"]
      packed := ["HBZkBqea"] },
    { names := ["sunu", "sunuwar"]
      packed := ["EDLwBhoj"] },
    { names := ["todr", "todhri"]
      packed := ["DVDgBz"] },
    { names := ["tutg", "tulutigalari"]
      packed := ["EAIqjbacabBlbjbacabdbjbbib"] },
    { names := ["berf", "beriaerfe"]
      packed := ["FIVwycy"] },
    { names := ["sidt", "sidetic"]
      packed := ["DWLsz"] },
    { names := ["tayo", "taiyo"]
      packed := ["HCIqBebvib"] },
    { names := ["tols", "tolongsiki"]
      packed := ["EEEyBrej"] } ]

/-- The script extensions that differ from the script of the same name, packed. -/
def scriptExtensions : List Packed :=
  [
    { names := ["adlm", "adlam"]
      packed := ["CIhaBgaJWoaFHhaGLRiCxejeb"] },
    { names := ["aghb", "caucasianalbanian"]
      packed := ["BDsaBsaBsaDTQnBzla"] },
    { names := ["arab", "arabic"]
      packed := ["CHcebIgbBhDcBvJgBhfCwbBcIVnaFHhaCZRaYpBgpEiebFeBMhBbEIeBeCpfiiBhfDGLsdbBabbbacabjbdbab",
      "agaeabababcbbbacabababababbbacdbgbdbdbabjbqfcbebqCab"] },
    { names := ["armn", "armenian"]
      packed := ["BDwaVgBlcBxccDOZje"] },
    { names := ["avst", "avestan"]
      packed := ["HbaRFsbDFQcCbdg"] },
    { names := ["beng", "bengali"]
      packed := ["BAyaCMubrbBadbhcbcvbgbaddcicbcdiaebbecyHDhabacbbaiaiacaeaccCBAfa"] },
    { names := ["bopo", "bopomofo"]
      packed := ["BBjabcnaqbRBxcejbmkdcagaHnajBqEiBfCZLtbKwe"] },
    { names := ["bugi", "buginese"]
      packed := ["JWaBbcbCCKta"] },
    { names := ["buhd", "buhid"]
      packed := ["IUnbjt"] },
    { names := ["cakm", "chakma"]
      packed := ["DTmjCKejDTFqCabr"] },
    { names := ["cari", "carian"]
      packed := ["HbaLZmacaFGdaDCLqBw"] },
    { names := ["cher", "cherokee"]
      packed := ["BDocbagbwblbGFuDhcfCFJeDb"] },
    { names := ["copt", "coptic", "qaac"]
      packed := ["HbaWmadbbaEebEenPJkElfgKtaDCPcBb"] },
    { names := ["cpmn", "cyprominoan"]
      packed := ["DTImbRQkDu"] },
    { names := ["cprt", "cypriot"]
      packed := ["DTImceBsdiCOmfcabBrbbdaca"] },
    { names := ["cyrl", "cyrillic"]
      packed := ["BAyaCpcbababacafaJeLrIVokGeaCyaExaGApBfCpaBTLkDrBHEcbDHPgCjBha"] },
    { names := ["deva", "devanagari"]
      packed := ["BAyaCJrDecBqHIeBmbbBNaaBZFrjGkBfBREmj"] },
    { names := ["dogr", "dogra"]
      packed := ["DOmlCIDcjBQIoCh"] },
    { names := ["dupl", "duployan"]
      packed := ["HbaWtbbaybQIhaFUQlEcfmdihjch"] },
    { names := ["elba", "elbasan"]
      packed := ["HbaWraDTScBn"] },
    { names := ["ethi", "ethiopic"]
      packed := ["BEcaFRdCubdcgbabdcBobdcBgbdcgbabdcobCebdcCocBfdzJVawjgbgbgbgbgbgbgbgBVKcfcfcfjgbgEPYfg",
      "bdbbbo"] },
    { names := ["geor", "georgian"]
      packed := ["HbaBVlaEFeBlbafacBvEJwBqccBJmaEUnBlbafaJza"] },
    { names := ["glag", "glagolitic"]
      packed := ["HbaWpabaOsacaJxaEIraFViaEKrDrSpaBTNfaEOTkgbqcgbbbe"] },
    { names := ["gong", "gunjalagondi"]
      packed := ["HbaDHkbEANifbbbBkbbbfhj"] },
    { names := ["gonm", "masaramgondi"]
      packed := ["DOmbEAJqgbbbBrdabbbiij"] },
    { names := ["goth", "gothic"]
      packed := ["HbaWqbcaBoaDSYoBa"] },
    { names := ["gran", "grantha"]
      packed := ["DNtbrbYqnGKaabbBecdbBNaaDNRjdbhcbcvbgbbbebjcbcccagafgcgdeERrbba"] },
    { names := ["grek", "greek"]
      packed := ["HbaWmbcababakaBuacaBqhcdbaeababcbabtbCkopJNqeByeeeDgcMgvcfcBlcfchbabababBecCabobncfbsc",
      "cbiDqaHsaCAJeaBGNiDaraDAXrCr"] },
    { names := ["gujr", "gujarati"]
      packed := ["DNtbrbKxcbibcbvbgbbbecjbcbccapdclhgCHNsj"] },
    { names := ["guru", "gurmukhi"]
      packed := ["DNtbrbFzcbfebcvbgbbbbbbcabeebccdahdbahqCHSzj"] },
    { names := ["hang", "hangul"]
      packed := ["GLkJvLJlcejbmocgaHnaCbDpEjBeCnBeBTAnBcYtQNrmweBwOMzbKweCgBedfcfcfcc"] },
    { names := ["hani", "han"]
      packed := ["HbaRIuzbDkmIfBapbcbmbmbmcagiHfaFspBgBljaBwBnCeBwplBzaDkykeDsBebJTnCmBFBjCQyhBFBcObcEbB",
      "HrbKweBQPobmgBLQvrLRybFEsCLFbBgGMncIObcLBkpXxDQwUvCFyHHyfMOn"] },
    { names := ["hano", "hanunoo"]
      packed := ["ITsw"] },
    { names := ["hebr", "hebrew"]
      packed := ["BDvbYyCciBaefDOVwzbebabbbbbj"] },
    { names := ["hira", "hiragana"]
      packed := ["SErcejbmqfbaebdDhchDmbCZTgbKwekaBtbCOUrLasaBdcYMva"] },
    { names := ["hung", "oldhungarian"]
      packed := ["MGoacaFGdapaDGEgBynByhf"] },
    { names := ["java", "javanese"]
      packed := ["CMEyCzbkeb"] },
    { names := ["kali", "kayahli"]
      packed := ["CMAaBv"] },
    { names := ["kana", "katakana"]
      packed := ["BDtaBdaQZtcejbmqfbaebDnddDrJgpIaBubDjCYWbbKwCkCOUadbgbbbaLbcByaod"] },
    { names := ["khoj", "khojki"]
      packed := ["EDijCHOijBOBmrbBu"] },
    { names := ["knda", "kannada"]
      packed := ["DNtbrbBEombcbwbjbecibcbdhbfcbdcjbcGAeabbgaxabaCASxf"] },
    { names := ["kthi", "kaithi"]
      packed := ["DOojNXxaBUFejBNMsCoka"] },
    { names := ["latn", "latin"]
      packed := ["CnzgzBvamacafwbBebRgdakabcbajabageBbobbbapchbbbBmafaemKrbBVebCXkaEOiBlgBwfdfmbCrCfahJv",
      "LraCnanaqmDfaCfbgaBbarBoECtBfPraBTUmhBaDxdDduoLqaTtBqbibdBEDqgBOkzgzDCffbBpbiDDNpBegf"] },
    { names := ["limb", "limbu"]
      packed := ["DOnaFXqBebleleadl"] },
    { names := ["lina", "lineara"]
      packed := ["DTItBsBVgLyjvkh"] },
    { names := ["linb", "linearb"]
      packed := ["DSYqlbzbsbbbocnBiEsfceBsdi"] },
    { names := ["lisu"]
      packed := ["BAyaqaRDkbBSFsBvBUMaa"] },
    { names := ["lyci", "lycian"]
      packed := ["MGoaDHQrBc"] },
    { names := ["lydi", "lydian"]
      packed := ["HbaRFtaDEXqzfa"] },
    { names := ["mahj", "mahajani"]
      packed := ["HbaDHklCIDcjBNUsBm"] },
    { names := ["mand", "mandaic"]
      packed := ["CJoaTrBbca"] },
    { names := ["mani", "manichaean"]
      packed := ["CJoaDUQxBmel"] },
    { names := ["mero", "meroitichieroglyphs"]
      packed := ["MGraDKHmBf"] },
    { names := ["mlym", "malayalam"]
      packed := ["DNtbrbBJmmbcbBybcbfepczFVeaxaCASzc"] },
    { names := ["modi"]
      packed := ["CLSajBPOwCqlj"] },
    { names := ["mong", "mongolian"]
      packed := ["JCizgDkhBqCWaaFZtbfdDJFwm"] },
    { names := ["mult", "multani"]
      packed := ["DYkjDWAagbabdbobk"] },
    { names := ["mymr", "myanmar"]
      packed := ["GBoGdCFUcaGvBeDtBfBPAmt"] },
    { names := ["nand", "nandinagari"]
      packed := ["DNtasbBImjGBhaiahaCASrfBQYshcBtck"] },
    { names := ["newa"]
      packed := ["DNtbHKcabbjagababaDPOsDnbe"] },
    { names := ["nkoo", "nko"]
      packed := ["CHoaoadaQaCgccDOWsb"] },
    { names := ["orkh", "oldturkic"]
      packed := ["MGoaFGfaDFZzCu"] },
    { names := ["orya", "oriya"]
      packed := ["DNtbrbPvcbhcbcvbgbbbecicbcchcebbecrGPeaxa"] },
    { names := ["osge", "osage"]
      packed := ["BDpacagaCyaDTLvBjeBj"] },
    { names := ["ougr", "olduyghur"]
      packed := ["CJoaDUSvaBSfz"] },
    { names := ["perm", "oldpermic"]
      packed := ["HbaWmafckaOdaDSMuBq"] },
    { names := ["phag", "phagspa"]
      packed := ["JCkbbaDCjaFZuaBTNxCd"] },
    { names := ["phlp", "psalterpahlavi"]
      packed := ["CJoaDUYhrhdmg"] },
    { names := ["rohg", "hanifirohingya"]
      packed := ["CHoaoadaBgaFraDVHjBnij"] },
    { names := ["runr", "runic"]
      packed := ["IOuDk"] },
    { names := ["samr", "samaritan"]
      packed := ["DAuBtcoOJqa"] },
    { names := ["shaw", "shavian"]
      packed := ["HbaDUIaBv"] },
    { names := ["shrd", "sharada"]
      packed := ["DNtaHKfabacbcajacaCATefcaBNWpDrDPoh"] },
    { names := ["sind", "khudawadi"]
      packed := ["DOmbCIDmjBOIgCgfj"] },
    { names := ["sinh", "sinhala"]
      packed := ["DOmbBOlcbrdxbibacgdaefbabhgjccFRpaDOTqt"] },
    { names := ["sogd", "sogdian"]
      packed := ["CJoaDWIpBp"] },
    { names := ["sylo", "sylotinagri"]
      packed := ["DOmbEyjCHWiBs"] },
    { names := ["syrc", "syriac"]
      packed := ["BDrbcbbaychbbbBCcaobcaBgakkBaaFnnbChccKmkIEfaba"] },
    { names := ["tagb", "tagbanwa"]
      packed := ["IUnbBpmbcbb"] },
    { names := ["takr", "takri"]
      packed := ["DOmbCIDmjBPTuCfgj"] },
    { names := ["tale", "taile"]
      packed := ["BDobfbdaEZzjDKwBdce"] },
    { names := ["taml", "tamil"]
      packed := ["DNtbrbUubbfdcbddbbabbdbdcdleedcbdcagaouGKdaCBBkaBOEfabaCdbETfBxna"] },
    { names := ["tang", "tangut"]
      packed := ["SEapTbaEQKmaBfKFvTsBeDtEk"] },
    { names := ["telu", "telugu"]
      packed := ["DNtbrbZqmbcbwbpcibcbdhbbcbbcdcjhiGEvbbabaxa"] },
    { names := ["tfng", "tifinagh"]
      packed := ["BDqababdzaPYaCdhboa"] },
    { names := ["tglg", "tagalog"]
      packed := ["ISmvjavb"] },
    { names := ["thaa", "thaana"]
      packed := ["CHoaobcaCmjKsBxDPGqaka"] },
    { names := ["thai"]
      packed := ["BAyaBaaBraBtaEClCffBb"] },
    { names := ["tibt", "tibetan"]
      packed := ["FRsCtbBjeBmbBjbobgebMEvd"] },
    { names := ["tirh", "tirhuta"]
      packed := ["DNtbrbHJjamapaCASzjBPAcCtij"] },
    { names := ["toto"]
      packed := ["BAyaGZSlBe"] },
    { names := ["yezi", "yezidi"]
      packed := ["CHoaoadaCmjDWAgBpbccb"] },
    { names := ["yiii", "yi"]
      packed := ["SErbfjchIpaBQBcBSudCcBIIce"] },
    { names := ["zinh", "inherited", "qaai"]
      packed := ["BEdacabodgcacpbbbrbebdCGmbGOxBtclBByCbbabeUebHmBfDFSqpqnBLnaCZQoBtcwUycrhcgBedBTLHiJf"] },
    { names := ["zyyy", "common"]
      packed := ["aCmBafBaBublbbbexaBfaRhcbjbadabibabffectEwagabaYnaIhaTwaCAuaPpdGDblcBgbBebjbbbgbkdkbor",
      "BhCkBlbccfbBabqBpceZpwkvBJrJwYdcFhTswbxcjbdbabzQcadananavaUjxBfaBxomdGfjfDrBfaJToClBHS",
      "qzDycBLoaobBFHsjwuclbsbdFrabBfBafBafExgbgkePmmBzBsCYNbJsdQtgwpqDrElCiJlkBmcCjdqibhBdeC",
      "iIftmtmDiBbgFfDgbCsbbcacbcdblbabgbCmbdchbgbBbbdbebadgbNbcLfcBxHThCpCyCiBBeBreDvmocobob",
      "BkkGrCezbbnBreixfFyBLwdqdmdIjgleapleCdijgBniBdcleboiBnNfincmdkdCebaepclejhFqbDyBSUXaaB",
      "eDr"] },
    { names := ["gara", "garay"]
      packed := ["CHoaoadaDVQuBldBcib"] },
    { names := ["gukh", "gurungkhema"]
      packed := ["DOnaFADeCf"] },
    { names := ["onao", "olonal"]
      packed := ["DOmbGYKwBqea"] },
    { names := ["sunu", "sunuwar"]
      packed := ["BDobbajacaBcadaECGkBhoj"] },
    { names := ["todr", "todhri"]
      packed := ["BDpacacajabaCwaDTWbBz"] },
    { names := ["tutg", "tulutigalari"]
      packed := ["EXajGBqabaCASxfHfaBOJejbacabBlbjbacabdbjbbib"] } ]

end Transcript.Unicode
