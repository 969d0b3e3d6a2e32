import Transcript.Unicode.Packed

/-!
# Bounds of graphemes, words and sentences

The part that each character plays where a text is divided into graphemes, into words or into sentences,
under the short and the long name of the part. What plays no part is absent.
-/

namespace Transcript.Unicode

/-- The parts that characters play at the bounds of graphemes, packed. -/
def graphemeBreaks : List Packed :=
  [
    { names := ["cn", "control"]
      packed := ["ajbbbrDrBgnaCBmaGUraDAqacbygBxpDGHjaJglTUapBZQudHWxhBTKZlBfDsExJgFIl"] },
    { names := ["cr"]
      packed := ["na"] },
    { names := ["ex", "extend"]
      packed := ["BDoEhKpgKdBsbabbbbbaCukBwuqaDxgcfcbbdBjaBeBaDnkCgijaydbibcbeBrcChiBqxbBfCdabaeheadgkbB",
      "daCgabacdiajakbBaacbCfaebebccdaBebdalbCfaeebbeaubwfbaCgabbbdiahckbBeaChabamajaBoadaCda",
      "bcfcbdhblbBdaCgacbbadcbdhblbBcbCfbbacdiajakbBdaCuaeaccbaiaDdacgmhDuacilgCvbBbababaCdnb",
      "ebbfkbBjjaDydbfbbcbzbecqdnacbgapaBBbcBKkdBccBdbBebCmbbgiackjaBtcbaEnbBiaEocebjagcIlbca",
      "CgabgbabachgjcaBwBtcludBwjecBmimbBgdcfCeabbdabeCehcbFwcbmbgeagadbHqClUeaHnBgEOccFlaDsB",
      "fVifEbbBSQedbjBgbDcbKmadaeazbfaFvbBarnaBmhzkbaBscBwacdcbcaBkaCpfcbcbmaiaBvaBzabccbfbba",
      "BqbiaJeacaeaBDZsaBCjpqpOcbXhaIsaFteCMgcbbfdBoceaGjbWbdCneMfbCzfCskBxdEtaCcoBpacbkcBxdc",
      "bhaCjcBkebhCkambCaibaidcaDrccdgacaGbadhvbCfbbabamajaogdeCpacfbacabcecbaobDhhccbaxaDdac",
      "fbacabbbbJbacdgbbbBbbDhhcabbEcabachDxabacdbeJzibbJlakdeaFodcbeaBgjBofcdiajfccBumbbHqab",
      "cbaHtgbfbaDevcgbbbbEsfdabbbgbaCubdabaNjblbCaefcxaHXtagoQYyldcDSaeChgBOiaCldDdalbBDAxbG",
      "YzBtcwUwedfihcgBedFscCYdCceBxiaoaweboCAigbqcgbbbeDwaGegOlaCjdTodJubJjacahbfaSggEfgEBge",
      "BSXYuDrEyJf"] },
    { names := ["l"]
      packed := ["GLkDrCFOqBc"] },
    { names := ["lf"]
      packed := ["ka"] },
    { names := ["lv"]
      packed := ["CNDoaBbaBbaBbaBbaBbaBbaBbaBbaBbaBbaBbaBbaBbaBbaBbaBbaBbaBbaBbaBbaBbaBbaBbaBbaBbaBbaBba",
      "BbaBbaBbaBbaBbaBbaBbaBbaBbaBbaBbaBbaBbaBbaBbaBbaBbaBbaBbaBbaBbaBbaBbaBbaBbaBbaBbaBbaBb",
      "aBbaBbaBbaBbaBbaBbaBbaBbaBbaBbaBbaBbaBbaBbaBbaBbaBbaBbaBbaBbaBbaBbaBbaBbaBbaBbaBbaBbaB",
      "baBbaBbaBbaBbaBbaBbaBbaBbaBbaBbaBbaBbaBbaBbaBbaBbaBbaBbaBbaBbaBbaBbaBbaBbaBbaBbaBbaBba",
      "BbaBbaBbaBbaBbaBbaBbaBbaBbaBbaBbaBbaBbaBbaBbaBbaBbaBbaBbaBbaBbaBbaBbaBbaBbaBbaBbaBbaBb",
      "aBbaBbaBbaBbaBbaBbaBbaBbaBbaBbaBbaBbaBbaBbaBbaBbaBbaBbaBbaBbaBbaBbaBbaBbaBbaBbaBbaBbaB",
      "baBbaBbaBbaBbaBbaBbaBbaBbaBbaBbaBbaBbaBbaBbaBbaBbaBbaBbaBbaBbaBbaBbaBbaBbaBbaBbaBbaBba",
      "BbaBbaBbaBbaBbaBbaBbaBbaBbaBbaBbaBbaBbaBbaBbaBbaBbaBbaBbaBbaBbaBbaBbaBbaBbaBbaBbaBbaBb",
      "aBbaBbaBbaBbaBbaBbaBbaBbaBbaBbaBbaBbaBbaBbaBbaBbaBbaBbaBbaBbaBbaBbaBbaBbaBbaBbaBbaBbaB",
      "baBbaBbaBbaBbaBbaBbaBbaBbaBbaBbaBbaBbaBbaBbaBbaBbaBbaBbaBbaBbaBbaBbaBbaBbaBbaBbaBbaBba",
      "BbaBbaBbaBbaBbaBbaBbaBbaBbaBbaBbaBbaBbaBbaBbaBbaBbaBbaBbaBbaBbaBbaBbaBbaBbaBbaBbaBbaBb",
      "aBbaBbaBbaBbaBbaBbaBbaBbaBbaBbaBbaBbaBbaBbaBbaBbaBbaBbaBbaBbaBbaBbaBbaBbaBbaBbaBbaBbaB",
      "baBbaBbaBbaBbaBbaBbaBbaBbaBbaBbaBbaBbaBbaBbaBbaBbaBbaBbaBbaBbaBbaBbaBbaBbaBbaBbaBbaBba",
      "BbaBbaBbaBbaBbaBbaBbaBbaBbaBbaBbaBbaBbaBbaBbaBbaBbaBbaBbaBbaBbaBbaBbaBbaBbaBbaBba"] },
    { names := ["lvt"]
      packed := ["CNDpBabBabBabBabBabBabBabBabBabBabBabBabBabBabBabBabBabBabBabBabBabBabBabBabBabBabBabB",
      "abBabBabBabBabBabBabBabBabBabBabBabBabBabBabBabBabBabBabBabBabBabBabBabBabBabBabBabBab",
      "BabBabBabBabBabBabBabBabBabBabBabBabBabBabBabBabBabBabBabBabBabBabBabBabBabBabBabBabBa",
      "bBabBabBabBabBabBabBabBabBabBabBabBabBabBabBabBabBabBabBabBabBabBabBabBabBabBabBabBabB",
      "abBabBabBabBabBabBabBabBabBabBabBabBabBabBabBabBabBabBabBabBabBabBabBabBabBabBabBabBab",
      "BabBabBabBabBabBabBabBabBabBabBabBabBabBabBabBabBabBabBabBabBabBabBabBabBabBabBabBabBa",
      "bBabBabBabBabBabBabBabBabBabBabBabBabBabBabBabBabBabBabBabBabBabBabBabBabBabBabBabBabB",
      "abBabBabBabBabBabBabBabBabBabBabBabBabBabBabBabBabBabBabBabBabBabBabBabBabBabBabBabBab",
      "BabBabBabBabBabBabBabBabBabBabBabBabBabBabBabBabBabBabBabBabBabBabBabBabBabBabBabBabBa",
      "bBabBabBabBabBabBabBabBabBabBabBabBabBabBabBabBabBabBabBabBabBabBabBabBabBabBabBabBabB",
      "abBabBabBabBabBabBabBabBabBabBabBabBabBabBabBabBabBabBabBabBabBabBabBabBabBabBabBabBab",
      "BabBabBabBabBabBabBabBabBabBabBabBabBabBabBabBabBabBabBabBabBabBabBabBabBabBabBabBabBa",
      "bBabBabBabBabBabBabBabBabBabBabBabBabBabBabBabBabBabBabBabBabBabBabBabBabBabBabBabBabB",
      "abBabBabBabBabBabBabBabBabBabBabBabBabBabBabBabBabBabBabBabBabBabBabBabBabBabBabBa"] },
    { names := ["pp", "prepend"]
      packed := ["CHcfIhaBxaOubDcaBRnaDUGkapaJkbUfaCBlabaMkfBAyaRba"] },
    { names := ["ri", "regionalindicator"]
      packed := ["HGOkz"] },
    { names := ["sm", "spacingmark"]
      packed := ["DKtaCdaccidbbBybChbgbcbCcaCgcCoaCgciabbCbbCiagbcbEkabbdcbcCacCjdCjbCgacabbBuaobChbfcbc",
      "CbbCybggtbClaExaFibClaGvajbzbBsaCSvahhbbNidccebbfIqbCgabavfFpaCfdCmaBeaebClaccbaCbhibG",
      "pavaCAShbcaDkbBypFmaBwaBwbebcbEhbcbyaGbacbfaJdbbbbbbaBLXjabaExaBtcebElaybChaBwcjaoaDpc",
      "dbGqcBfbChabdcbcbvbDhbpabbDzcibdaEdbgabbbacaJebgdcaEjcibbaEfabbEgahaKbcjaJoebbhabaFmci",
      "deaDgaBdbCkaHtadabaHraoaEcahacaIfeebbaNmbmaBwbibYZacFJgCc"] },
    { names := ["t"]
      packed := ["GRwDjCWXnBw"] },
    { names := ["v"]
      packed := ["GPcCtCWZwwCERcadd"] },
    { names := ["zwj"]
      packed := ["MDpa"] } ]

/-- The parts that characters play at the bounds of words, packed. -/
def wordBreaks : List Packed :=
  [
    { names := ["le", "aletter"]
      packed := ["CnzgzBvakacabafwbBebSlgBhEiebbcdbagabcbabtbDebFiiGjbBlcdbabBobaEaaBsBqBjbbDubapbhbkcca",
      "pbbBdBdDklayBgjbeafveajadaxyhkfxbgqBpCgCbdasahjppehcbcvbgbadddaqanbbcobkaifebcvbgbbbbb",
      "bBfdbatcqibcbvbgbbbedasapbxalhcbcvbgbbbedaBebbcparabfdcbddbbabbdbdcdlwaCahbcbwbpdaBacb",
      "bcbBeaehbcbwbjbedaBecbbpbribcbBocaqafcicyffrdxbibacgMbaClhbBjBbeKpBlbafacBqbMubdcgbabd",
      "cBobdcBgbdcgbabdcobCebdcCoBlpqDhcfdXvcqbzfCwdkhrnsorombcGtDkhecBhbafCrkBeIrwJeBurhCcBd",
      "nbkBrBaBjBpckBjckfBqccBpdbfbbdafHjCmKrcfcBlcfchbabababBecCabgbadcbgddcfemfcbgEmanaqmDx",
      "aeacjbadegabababdbkcdfeearBoBFhBzCRuIugddbmBlbafacCdhaqwjgbgbgbgbgbgbgbgDcaSbaCbbHsBqb",
      "DprBfBPToBSuCpBtcKidpkbuBuqBecDbyIeuqbcbdbwBdBzoBxCkfdabblBbkwzBchBuBcaBwBoxcbhFskhcmf",
      "cfcfjgbgbCfgEkBdQNrmweBwNGugmeCeDtBhNysClcCbBolEmebFeBkzgzCrBedfcfcfccBjlbzbsbbbocnBiE",
      "sCrCaKhBcdBwBvBfnBdfBlkBdcBjehbeBqGbsBjeBjeBniBzmkbobgbbbkbobgbbdBzmLyjvkhyfbBpbiCrfca",
      "bBrbbdacwkwjBeCnsbbkvkzgzBmCdgbCmapdbcbBcBqBcdBcBjhbBbBbCbkvksnrEgCuCdBynBynBjBmBbjwJq",
      "BpgbqfCeBckaivBqrBuuBbwmCaCfbcanBsBgyBaBjBdacaiBidamBvodvabaBjrbytbClgbabdbobjhBuBmhcb",
      "cvbgbbbedasameBejbacabBlbazabaBsCasducBeBvubbaHcBuBpdBkBvuaChBqnaMpBrEmClBfhcachbbbxpa",
      "baDqhcBmqabaBcakBnhavalBttasCuHrBgBfibBkraBxBdEigbbbBlvazfbbbBfoaxBrKaspabmbBhEuaDbBJl",
      "DyEgrHnDXkDspBPfrfzFXqfWkKDdBdCPuVwhBerDarBdsBvqdBfufsQqBsIdClBgycyBsCwfaComCmbbaBCVkE",
      "cfmdihjIWkDgbCsbbcacbcdblbabgbCmbdchbgbBbbdbebadgbNbcybybBebybBebybBebybBebybhCSyBegfK",
      "bCjFqBskgqaMjBdsBrSqBbIuBdcaHzBebcbbbgcejbIqgbdbbbobHoChCphaBUidbBabbbacabjbdbabagaeab",
      "ababcbbbacabababababbbacdbgbdbdbabjbqfcbebqYezgzgz"] },
    { names := ["cr"]
      packed := ["na"] },
    { names := ["dq", "doublequote"]
      packed := ["Bia"] },
    { names := ["extend"]
      packed := ["BDoEhKpgKdBsbabbbbbaCukBwuqaDxgcfcbbdBjaBeBaDnkCgijaydbibcbeBrcChiBqxbBgCccbrbgkbBdcCe",
      "abgcbccjakbBaaccCeabeebccdaBebdalcCeabhbcbcubwfbcCeabgcbcchckbBeaChedcbdjaBoeCdabgbcbd",
      "hblbBdcCeabgbcbdhblbpamdCdbbgbcbdjakbBdcCsaefbabhsbCjacgmhDuacilgCvbBbababaebBxtbbfkbB",
      "jjaDwtxdecbccgddnlbakdBBbcBKkdBccBdbBebCmBfjaBtcbaEnbBiaEolelIleCfjbBccaBwBtclueBvqBmi",
      "mcBemCenBwtFwcbueagaccHqClUeaHnBgEOccFlaDsBfVifEbbBSQedbjBgbDcbKmadaeaxeeaDfbByrBarnaB",
      "mhzmBsdBvnBkaCpnmaibBtcByabccbfbbaBpefbJchbbBDZsaBCjpqpOcbXhaIsaFteCMgcbbfdBoceaGjbWbd",
      "CneMfbCzfCskBxdEscCboBpacbkdBtkhaCjcBknqbBsamcBwnidbbDolgacaGblvdCdbbgcbccjakbcgdeCpib",
      "acabdbebaobDerxaDdtJbgciBbbDeqEcmDxoJwoJlfbbcdbabbFlgcgdaBcjBogbdiajkBupHqhHrhbhDevbnE",
      "sfdabbbgbaCoebbbeNjdjbbaBwgdexaHXtagoQYyrDSaeChgBOiabCchdDdalbBDAxbGYzBtcwUwedfihcgBed",
      "FscCYdCceBxiaoaweboCAigbqcgbbbeDwaGegOlaCjdTodJubJjacahbfaSggEfgEBgeBSXYuDrEyJf"] },
    { names := ["ex", "extendnumlet"]
      packed := ["DraMBfapbtaDGAobycJfa"] },
    { names := ["fo", "format"]
      packed := ["GraCBmaGUraDAtbBaeBxebjDGHjaJpcTUapBZQudHWxhBTKZma"] },
    { names := ["hl", "hebrewletter"]
      packed := ["CFgBaedDOVyabjbmbebabbbbbj"] },
    { names := ["ka", "katakana"]
      packed := ["SGneDxbdDmbdJgpIaBubDjCZHeCdCOUcdbgbbbaLbcByaod"] },
    { names := ["lf"]
      packed := ["ka"] },
    { names := ["ml", "midletter"]
      packed := ["CgaEuaBBraSdaFsaJXyaDGBbaCnaHoa"] },
    { names := ["mn", "midnum"]
      packed := ["BsaoaBGcaUcaFabDqaPfaJFfaDGChadaHbaoa"] },
    { names := ["mb", "midnumlet"]
      packed := ["BuaMCfbkaDGDpaGyaga"] },
    { names := ["nl", "newline"]
      packed := ["lbEqaLZmb"] },
    { names := ["nu", "numeric"]
      packed := ["BwjCEwfDmjbaEjasjHqjHqbDcaFbjEojEojEojEojEojEojEojEojEojDsjEojCsjKsjCsjCTqjBmjLojEykGj",
      "jgjHajDijFejgjCAEojBAcjBmjHqjwjDijPqjBFMcjCCkjDFyjgjBEqjCzapaBijCijFojKsjNejEojOkjDyjg",
      "tCyjQgjDyjZmjDijJmjCsjCcjNujYYgjDMcjDijFejUojBKDyjECqBxDNcjQgjTijJnjBGvjHBaj"] },
    { names := ["ri", "regionalindicator"]
      packed := ["HGOkz"] },
    { names := ["sq", "singlequote"]
      packed := ["Bna"] },
    { names := ["wsegspace"]
      packed := ["BgaIMhaDPngbcDgaFXwa"] },
    { names := ["zwj"]
      packed := ["MDpa"] } ]

/-- The parts that characters play at the bounds of sentences, packed. -/
def sentenceBreaks : List Packed :=
  [
    { names := ["at", "aterm"]
      packed := ["BuaMCraDGDpaHfa"] },
    { names := ["cl", "close"]
      packed := ["BiaecBxabaBdabaBtapaFMsdCUnbDPjhzbkbCcbobYjdBdbBPgfhnDbbBfjPnvCldBgbBNmnobcjyashQljchb",
      "cCZRqbIhbBcpcbqfGnbBxabaBdababbbbDPOsc"] },
    { names := ["cr"]
      packed := ["na"] },
    { names := ["ex", "extend"]
      packed := ["BDoEhKpgKdBsbabbbbbaCukBwuqaDxgcfcbbdBjaBeBaDnkCgijaydbibcbeBrcChiBqxbBgCccbrbgkbBdcCe",
      "abgcbccjakbBaaccCeabeebccdaBebdalcCeabhbcbcubwfbcCeabgcbcchckbBeaChedcbdjaBoeCdabgbcbd",
      "hblbBdcCeabgbcbdhblbpamdCdbbgbcbdjakbBdcCsaefbabhsbCjacgmhDuacilgCvbBbababaebBxtbbfkbB",
      "jjaDwtxdecbccgddnlbakdBBbcBKkdBccBdbBebCmBfjaBtcbaEnbBiaEolelIleCfjbBccaBwBtclueBvqBmi",
      "mcBemCenBwtFwcbueagaccHqClUebHmBgEOccFlaDsBfVifEbbBSQedbjBgbDcbKmadaeaxeeaDfbByrBarnaB",
      "mhzmBsdBvnBkaCpnmaibBtcByabccbfbbaBpefbJchbbBDZsaBCjpqpOcbXhaIsaFteCMgcbbfdBoceaGjbWbd",
      "CneMfbCzfCskBxdEscCboBpacbkdBtkhaCjcBknqbBsamcBwnidbbDolgacaGblvdCdbbgcbccjakbcgdeCpib",
      "acabdbebaobDerxaDdtJbgciBbbDeqEcmDxoJwoJlfbbcdbabbFlgcgdaBcjBogbdiajkBupHqhHrhbhDevbnE",
      "sfdabbbgbaCoebbbeNjdjbbaBwgdexaHXtagoQYyrDSaeChgBOiabCchdDdalbBDAxbGYzBtcwUwedfihcgBed",
      "FscCYdCceBxiaoaweboCAigbqcgbbbeDwaGegOlaCjdTodJubJjacahbfaSggEfgBTCAfDrEyJf"] },
    { names := ["fo", "format"]
      packed := ["GraCBmaJiaGLiaDAqacbBaeBxebjDGHjaJpcTUapBZQudHWxhBTKZma"] },
    { names := ["lf"]
      packed := ["ka"] },
    { names := ["lo", "lower"]
      packed := ["DtzBvakaeaBkxbhbabababababababababababababababababababababababababababbbababababababab",
      "bbababababababababababababababababababababababacababccabacadbeacadccacababacabbbacadab",
      "acbccgacacababababababababbbababababababababbcabadabababababababababababababababababab",
      "abababababababababababgcacbbaeababababCqcBihbBeeFkabadacdsaBbBibbdcbababababababababab",
      "ababebacacbBzBvbababababababababababababababababajabababababababababababababababababab",
      "ababababababababacababababababbbababababababababababababababababababababababababababab",
      "ababababababababababababababababababababaBwBoEItaBDjfDFuibaEnHjCnababababababababababa",
      "bababababababababababababababababababababababababababababababababababababababababababa",
      "bababababababababababababababababababababibabababababababababababababababababababababa",
      "bababababababababababababababababababababababababababiifkhihifkhihinchihihiebbgadcbbid",
      "cbihkcbbEranaqmEfadbdaBbaeaeacbideaBhpeaBGlzCTqBvbadbbababaeabbbhdabababababababababab",
      "abababababababababababababababababababababababababababababababababababababababbhabaeam",
      "BlbafaBTWdababababababababababababababababababababababatabababababababababababababcFda",
      "babababababcbababababababababababababababababababababababababababababababjbabacabababa",
      "baeabacabcbabababababababababafafabababababababaeabacabababababababavdbabcBFpBqbngDbBE",
      "AigmeBOzzBVhBnFgBjFzkbobgbbRjaccbBpbiBXlByEvvEGoBfBGJwBfChyBMJezBagbrBazBadbabgbkBazBa",
      "zBazBazBazBazBazBazBaBbBcybfBaybfBaybfBaybfBaybfbaCSyjbtgfKbCjDHsBh"] },
    { names := ["nu", "numeric"]
      packed := ["BwjCEwfDmjbbEiasjHqjHqbDcaFbjEojEojEojEojEojEojEojEojEojDsjEojCsjKsjCsjCTqjBmjLojEykGj",
      "jgjHajDijFejgjCAEojBAcjBmjHqjwjDijPqjBFMcjCCkjDFyjgjBEqjCzapaBijCijFojKsjNejEojOkjDyjg",
      "tCyjQgjDyjZmjDijJmjCsjCcjNujYYgjDMcjDijFejUojBKDyjECqBxDNcjQgjTijJnjBGvjHBaj"] },
    { names := ["le", "oletter"]
      packed := ["RbaedIabBjgglBaabaFdaSqaEoBaeeBsBqBjbbDubapbhbkccaqabBdBdDklayBgjbeafveajadaxyhkfxbgqB",
      "pCgCbdasahjppehcbcvbgbadddaqanbbcobkaifebcvbgbbbbbbBfdbatcqibcbvbgbbbedasapbxalhcbcvbg",
      "bbbedaBebbcparabfdcbddbbabbdbdcdlwaCahbcbwbpdaBacbbcbBeaehbcbwbjbedaBecbbpbribcbBocaqa",
      "fcicyffrdxbibacgCgBvbbmgCgbbabebxbabjbbjacebavdBgaClhbBjBbeElBquaqfeddadbhcemmaCnBqcMt",
      "bdcgbabdcBobdcBgbdcgbabdcobCebdcCoBlpEjXvcqbzfCwdkhrnsorombcpBzBjaeaCpDkhecBhbafCrkBeB",
      "xBdcelBrezCcwjCaDeaDpBurhCcBdnbkBrBaBjBpckBjsBqccBpdbfbbdaBPqdCtccdEKtCdhaqwjgbgbgbgbg",
      "bgbgbgDcaSbcziheceeDhgcbDlbdfBqbDprBfBwpTsJTnCmBGUeCpBtcKidpkbCoaqaBgDbBniEaagaDzadgbc",
      "bdbwBdBzoBxCkfdabblBbkwzBchBuBcaqebjkebBoxcbhuwdadBxbadbcecabaycckhcmfcfcfjgbgFpBiBdQN",
      "rmweBwMNcObcEbCpabjbmbebabbbbbEdBhNysClcCbBolEmebFeEbCdcBedfcfcfccBjlbzbsbbbocnBiEsCrC",
      "aKhBcdBwBvBfnBdfBlkBdcBjehbeEsCzDuBniBzDoBzmLyjvkhzbEvfcabBrbbdacwkwjBeCnsbbkvkzgzBmCd",
      "gbCmapdbcbBcBqBcdBcBjhbBbBbCbkvksnrEgCuHbBjBmfBfaKmBpgbqfCeBckaivBqrBuuBbwmCaCfbcanBsB",
      "gyBaBjBdacaiBidamBvodvabaBjrbytbClgbabdbobjhBuBmhcbcvbgbbbedasameBejbacabBlbazabaBsCas",
      "ducBeBvubbaHcBuBpdBkBvuaChBqnaCtBaBlgHdBrIdhcachbbbxpabaDqhcBmqabaBcakBnhavalBttasCuHr",
      "BgBfibBkraBxBdEigbbbBlvazfbbbBfoaxBrKaspabmbBhEuaDbBJlDyEgrHnDXkDspBPfrfzFXqfWkKDdBdCP",
      "uVwhBerDarBdsBvqdBfufsQqBsPnCwfaComCmbbaoejKXxBpBfDtEkMWrdbgbbbLepaBdccaodiPfDKuEcfmdi",
      "hjNBcaThBskgqaMjBdsBrSqBbIuBdcaHzBebcbbbgcejbIqgbdbbbobHoFeaBUidbBabbbacabjbdbabagaeab",
      "ababcbbbacabababababbbacdbgbdbdbabjbqfcbebqGOaCLFbBgGMncIObcLBkpXxDQwUvCFyHHyfMOn"] },
    { names := ["sc", "scontinue"]
      packed := ["BsbmbBGcaSkaGsbSwaGBxafaDBebGAuaDAAwbbbBcbBdbcbcakaGmbmbCua"] },
    { names := ["se", "sep"]
      packed := ["FdaLZmb"] },
    { names := ["sp"]
      packed := ["jabbtaExaIHjaDPnkBkaBvaFXwa"] },
    { names := ["st", "sterm"]
      packed := ["BhaBdaCAbaFrcGyaBrcJmaCjabadbLhbCPwbBEkaebBDtaHqbGbbBtafaMcbNqdGgbkbcbBdcHfbCnbBKubjcE",
      "UxcLuanawbQnaBSHwaKkbItadaOsbDibDraFwbFrcFobJpaBFCwacbClbGnaBdaCnaEDwbBXdeBsdHhbEndExc",
      "EzbgaqbDkbbbEeaLmbEnbOjbfoEbbJpcTxabaJrbDjbQebBAqbCwbBCMbbFdaCnblaVhbLkaBDOgaLIma"] },
    { names := ["up", "upper"]
      packed := ["CnzDxwbgBhabababababababababababababababababababababababababababacabababababababacabab",
      "abababababababababababababababababababababbbabadbbabbbccdbbbcdbbbbababbbacabbbcbabbdah",
      "bbbbbbabababababababacababababababababacbbabcbabababababababababababababababababababab",
      "ababababababababahbbbcabdbabababaLdabadaiagabcbabbbqbiBjaccdabababababababababababafac",
      "abbcByBwababababababababababababababababajabababababababababababababababababababababab",
      "abababababbbabababababacababababababababababababababababababababababababababababababab",
      "ababababababababababababababababacBlEHdBlbafaBBuDhDGlaOkababababababababababababababab",
      "ababababababababababababababababababababababababababababababababababababababababababab",
      "ababababababababababababababababajabababababababababababababababababababababababababab",
      "ababababababababababababababababababababababajhifkhihiflabababaihyhihihieleldmeleKbaea",
      "dccccadegabababdcdkbfaBaptaBFmzCSuBvBwabccabababdbacaicbababababababababababababababab",
      "abababababababababababababababababababababababababababababababababaiabaeaBTYjababababa",
      "babababababababababababababababababatabababababababababababababaFfababababababadababab",
      "abababababababababababababababababababababababababababakababbbabababaeabacabadabababab",
      "ababababababebebabababababababdbabbbabababababababayaBHAhzBUzBnFgBjGakbobgbbCQcByGbvEG",
      "oBfBGJwBfCmyBMJfzBazBazBaabbcacbcdbhBazBabbdchbgBbbbdbebadgBbzBazBazBazBazBazBeyBhyBhy",
      "BhyBhyBhaGNlBhDBizgzgz"] } ]

end Transcript.Unicode
