import Transcript.Unicode.Packed

/-!
# General categories

The characters of each general category, under the short and the long name of the category. Surrogates are no
characters, and the unassigned ones are what the others leave over; both are absent here.
-/

namespace Transcript.Unicode

/-- The general categories of two letters, packed. -/
def categories : List Packed :=
  [
    { names := ["cc", "control", "cntrl"]
      packed := ["aBfDrBg"] },
    { names := ["cf", "format"]
      packed := ["GraCAkfwaHkaBxaOubDcaFTjaDAqeBaeBxebjDGHjaJpcGIzapaNKkpBZQudHWxhBTKZmaBeDr"] },
    { names := ["co", "privateuse"]
      packed := ["DGVoJMdCAHXoDSYncDSYn"] },
    { names := ["ll", "lowercaseletter"]
      packed := ["DtzCgaBpxbhbabababababababababababababababababababababababababababbbabababababababbbab",
      "abababababababababababababababababababababacababccabacadbeacadccacababacabbbacadabacbc",
      "cgacacababababababababbbababababababababbcabadabababababababababababababababababababab",
      "abababababababababgcacbbaeababababCqczHlabadadcsaBbBibbdcbabababababababababababebacac",
      "bBzBvbababababababababababababababababajababababababababababababababababababababababab",
      "abababacababababababbbabababababababababababababababababababababababababababababababab",
      "abababababababababababababababaBwBoEHbBqccBDgfDFuibaEnBrClmbBhDyababababababababababab",
      "ababababababababababababababababababababababababababababababababababababababababababab",
      "ababababababababababababababababababababibabababababababababababababababababababababab",
      "ababababababababababababababababababababababababababiifkhihifkhihinchihihiebbgadcbbidc",
      "bihkcbbKoadbdaBbaeaeacbideaCbaEBbBvbadbbababaeabbbffababababababababababababababababab",
      "ababababababababababababababababababababababababababababababababbhabaeamBlbafaBTWdabab",
      "ababababababababababababababababababababatabababababababababababababaFfababababababcba",
      "bababababababababababababababababababababababababababababababhbabacababababaeabacabcba",
      "bababababababababafafabababababababaeabacabababababababaBaadaBFpBqfihDbBEAigmeBOzzBVhB",
      "nFgBjFzkbobgbbCRbByEvvEGoBfBGJwBfChyBMJezBagbrBazBadbabgbkBazBazBazBazBazBazBazBazBaBb",
      "BcybfBaybfBaybfBaybfBaybfbaCSyjbtgfDUdBh"] },
    { names := ["lm", "modifierletter"]
      packed := ["BAmreloehabaFdafaSkaIwaGibKjbeaBfajadaGeaGlaBVoaExaVtaCPmaEdaXnaRwfGsCknaBiBkBAnanaqmE",
      "MxbJhaHjaSbaBrefaDtbDpcBQBuaBWcfKkaEkaBcbEriDcaxaEaddbSbawaFhaEeavbDzdjaBFViaBtbCZofbB",
      "pbiCCxaBgaNdaFSlaBDIcdTocBobVemCmbbaobYGadbgbbSGnCjHtgBKfaUlaWpa"] },
    { names := ["lo", "otherletter"]
      packed := ["GoapaJwaedIabBFuBaedBtBfbjBjbbDubaybkccaqabBdBdDklayBgvvBqyhkfxbgqBoChCbdasahjqoehcbcv",
      "bgbadddaqanbbcobkaifebcvbgbbbbbbBfdbatcqibcbvbgbbbedasapbxalhcbcvbgbbbedaBebbcparabfdc",
      "bddbbabbdbdcdlwaCahbcbwbpdaBacbbcbBeaehbcbwbjbedaBecbbpbribcbBocaqafcicyffrdxbibacgCgB",
      "vbbmfChbbabebxbabjbbjacexdBgaClhbBjBbeElBquaqfeddadbhcemmaEjMqbdcgbabdcBobdcBgbdcgbabd",
      "cobCebdcCoBlpEjXvcqbzfCwghhrnsorombcpBzBoaCpBibCahecBhbafCrkBeBxBdcelBrezCcwjCaGuBurhC",
      "cBdnbkBrBaBjBpckBdEjdbfbbdaBPqdENvCdywjgbgbgbgbgbgbgbgVfaCbaeDhiabDleafBqbDprBfBwpTsJT",
      "nCmBFCebBRyCpBniKhepkbCoaBxCrGnaDzadgbcbdbwBdBzoBxCkfdabblBbkwzBchBuBtecikebBoxcbhupbf",
      "dadBxbadbcecabaybdkhaofcfcfjgbgFpBiBdQNrmweBwMNcObcEbCpabjbmbebabbbbbEdBhNysClcCbBolEm",
      "ebFeEbjbBscBedfcfcfccBjlbzbsbbbocnBiEsOzBcdBwBvBfntbhgBlkBdcBjehEyCzDuBniBzDoBzmLyjvkh",
      "FwfcabBrbbdacwkwjBeCnsbbkvkzgzBmCdgbCmapdbcbBcBqBcdBcBjhbBbBbCbkvksnrEgCuHbBjBmdbaLsBp",
      "gbqcbbCeBckaivBqrBuuBbwmCaCfbcanBsBgyBaBjBdacaiBidamBvodvabaBjrbytbClgbabdbobjhBuBmhcb",
      "cvbgbbbedasameBejbacabBlbazabaBsCasducBeBvubbaHcBuBpdBkBvuaChBqnaCtBaBlgHdBrIdhcachbbb",
      "xpabaDqhcBmqabaBcakBnhavalBttasCuHrBgBfibBkraBxBdEigbbbBlvazfbbbBfoaxBobbKaspabmbBhEua",
      "DbBJlIwHnDXkDspBPfrfzFXqfWkKDdBdCPuVwhBerDarBdsBvBzufsQtBnPpCwfaGtKXxBpBfDtEkMXhLepaBd",
      "ccaodiPfDKuEcfmdihjNBcaThBsBhaMjBdsBrSqBaIvBdcaHzBebcbbbgcejaIrgbdbbbobHoBZndbBabbbaca",
      "bjbdbabagaeabababcbbbacabababababbbacdbgbdbdbabjbqfcbebqGOaCLFbBgGMncIObcLBkpXxDQwUvCF",
      "yHHyfMOn"] },
    { names := ["lt", "titlecaseletter"]
      packed := ["RlacacaBmaLFhhihihmapaBva"] },
    { names := ["lu", "uppercaseletter"]
      packed := ["CnzDxwbgBhabababababababababababababababababababababababababababacabababababababacabab",
      "abababababababababababababababababababababbbabadbbabbbccdbbbcdbbbbababbbacabbbcbabbdah",
      "acacacabababababababacababababababababacacabcbabababababababababababababababababababab",
      "ababababababababahbbbcabdbabababaLdabadaiagabcbabbbqbiBjaccdabababababababababababafac",
      "abbcByBwababababababababababababababababajabababababababababababababababababababababab",
      "abababababbbabababababacababababababababababababababababababababababababababababababab",
      "ababababababababababababababababacBlEHdBlbafaBBuDhDGlagBqccMiababababababababababababa",
      "bababababababababababababababababababababababababababababababababababababababababababa",
      "bababababababababababababababababababajabababababababababababababababababababababababa",
      "bababababababababababababababababababababababababajhifkhihiflabababaihCudmdmdmeldKcaea",
      "dccccadegabababdcdkbfaCjaDZgBvBwabccabababdbacaicbabababababababababababababababababab",
      "ababababababababababababababababababababababababababababababaiabaeaBTYjabababababababa",
      "bababababababababababababababatabababababababababababababaFfababababababadabababababab",
      "ababababababababababababababababababababababababakababbbabababaeabacabadababababababab",
      "abababebebabababababababdbabbbabababababababayaBHAhzBUzBnFgBjGakbobgbbCQcByGbvEGoBfBGJ",
      "wBfCmyBMJfzBazBazBaabbcacbcdbhBazBabbdchbgBbbbdbebadgBbzBazBazBazBazBazBeyBhyBhyBhyBhy",
      "BhaGNlBh"] },
    { names := ["mc", "spacingmark"]
      packed := ["DKtaCdaccidbbBybCgcgbcbkaBraCgcCoaCgciabbCbbCgabagbcbkaDybbbdcbckaBpcCjdCjbCgabecbbbjb",
      "BcaobCgcfcbckaBqbCxcghsbMsbClaGpbeagacbzbkccgvbcfcakcCLsaBeaEzahhbbNidccebbfIqbCgabaja",
      "bbifFpaBwafabebbCjaBeaebcaCiaccbadbBwhibGpavaHHebBTLbbcaDkbBypFmbBvaBwbebccEgbcbyaBtab",
      "aEfacbfaJdbbbbbbaBLXjabaExaBtcebElaybChaBwcjbnaDpcdbbaGocBfbCgbbdcbccjakbDgchacabdbbba",
      "DxcibdaEccgabdcaJdcgdcaEjcibbaEfabbgaDzabbeaKbcjaJnfbbeacabaFmcideaDgaBdbCkaHtadabaHra",
      "oaEcahacaIfeebbaNmbmaBwbibbaYYycFJgCcEabBKXnbgf"] },
    { names := ["me", "enclosingmark"]
      packed := ["BSqbIKqaCIgdbcBYOxc"] },
    { names := ["mn", "nonspacingmark"]
      packed := ["BDoEhKpeKfBsbabbbbbaCukBwuqaDxgcfcbbdBjaBeBaDnkCgijaydbibcbeBrcChiBqxbBfCdabaeheadgkbB",
      "daCgaediaubBaacbCfaebebccdaBebdalbCfaeebbeaubwfbaCgacabdiahblbBeaCjamaByadaCdabcfcbdhb",
      "lbBdaCgacagafbubBcbCfbediaubBdaCuahcbaDmacgmhDuacilgCvbBbababaCdnbebbfkbBjjaDydbfbbcbz",
      "becqdnacbgapaBBbcBKkcBdbBebBebCmbbgiackjaBtcbaEnbBiaEocebjagcIlbcaCgabgbabachgjcaBwnbB",
      "ecludBwabebafaBoimbBgdcbbcCeabbdabcCghcbFwcbmbgeagadbHqClBBsmeadlEOccFlaDsBfVidEdbBSQe",
      "aejBgbDcbKmadaeazbfaFvbBarnaBmhzkBucBwacdcbBnaCpfcbcbmaiaBvaBzabccbfbbaBqbiaJeacaeaBDZ",
      "saBCjpqpBLlaIsaFteCMgcbbfdBoceaGjbWbdCneMfbCzfCskBxdEtaCcoBpacbkcBxdcbhaCjcBkebhCkambC",
      "aikdcaDrccabbgacaGbadhvbCfbdaBlgdeCsfnababaobDhhccbaxaDgfbaebbbJedgbbbBbbDhhcabbEcabac",
      "fbaDxabacdbeJzibbJwbbaeaFodcbeaBgjBofcdiajfccBumbbHqabcbaHtgbfbaDevcgbbbbEsfdabbbgbaCu",
      "bdabaNjblbCaefabaxaHXtagoQYyldcDSaeChgBOiaCldDdaBDBkbGYzBtcwUycrhcgBedFscCYdCceBxiaoaw",
      "eboCAigbqcgbbbeDwaGegOlaCjdTodJubJjacahbfaSggEfgBTCIvJf"] },
    { names := ["nd", "decimalnumber", "digit"]
      packed := ["BwjCIojFejHqjPwjEojEojEojEojEojEojEojEojEojDsjEojCsjKsjCsjCTqjBmjLojEyjGkjgjHajDijFejg",
      "jCAEojBAcjBmjHqjwjDijPqjBFMcjCCkjDFyjgjBEqjEyjCijFojKsjNejEojOkjDyjgtCyjQgjDyjZmjDijJm",
      "jCsjCcjNujYYgjDMcjDijFejUojBKDyjECqBxDNcjQgjTijJnjBGvjHBaj"] },
    { names := ["nl", "letternumber"]
      packed := ["IRucDYtBicdFMsaziocBSYljBIFgCaRsaiaFeeMEsEgBCPpc"] },
    { names := ["no", "othernumber"]
      packed := ["GwbfaccDMrfOmfEqcFdgIjgriQrjBPltBRvjSmaCMvadfgjHqpBpaBByChDavYgBdCBhaBTcdFijBehboBgjBn",
      "oBSMifBHQnBsCndrbNdBaBkdBZghzgBniCxewfGebcpcBtCmiCabBecCxeEahyhBpgMsfNoBeGcjBqdEigFetO",
      "ptBZxbQoiBHnsBGtuBCPqgBEswBLYftmtEeyIBuiBJtCgbcbdCyBsboBLam"] },
    { names := ["pc", "connectorpunctuation"]
      packed := ["DraMBvbtaDGAobycJfa"] },
    { names := ["pd", "dashpunctuation"]
      packed := ["BtaCAuaBzaFKjaBNpaDBdfFHxacaBfbeaBcaReataEhaCZWabBlakaGnaFLoaMga"] },
    { names := ["pe", "closepunctuation"]
      packed := ["BpaBzaBfaFPdabaCUoaDRdaCdapaYkabaBeaBPuababababababaDcaBgababababaPoababababababababab",
      "abaCmabaBhaBOvabababaBsabababaQmababababadabababacbCZRqaIjaBdabababababababadarababaGo",
      "aBzaBfacaca"] },
    { names := ["pf", "finalpunctuation"]
      packed := ["HfaLWvadaBcaFFsabaeacapada"] },
    { names := ["pi", "initialpunctuation"]
      packed := ["GpaLXkacbcazaFFsabaeacapada"] },
    { names := ["po", "otherpunctuation"]
      packed := ["BhcbccababbkbdbBbaCqafaobhaBBaaiaRyfBpaCcacacaBsbubbbnabcCwdDyaBrnIzcCcoBfaKbbkaFkaEqa",
      "EraPaamaOdaDmakbGmobaEiaCweebEhfGpaXoiBDtaEucCtbGbcbcBlfbdMbbIibEygbfGebkgBccEudCheCkb",
      "CmhlaBGcbihiicdccdkbabjEUcdbbEiaFnbeccacibbbacbkebjcdbabmccQmcCfaHhaBRYgbKjcDvakaElfOq",
      "dDibBocbaBxbBvaDtmqbEudEwbqbJpaBFCugcawaubcddcbdhcgabbFtcbccababbkbdbBbaBkacbPucZsaBwa",
      "PyaBCpaHraBfaKmiBmaEigCogDldBFnaFceBsdHhgEfbbdEwdBwbDbdeanabcDkfEdaLmbbbEkekbbaEaaJqwE",
      "bcBcmCyaFacJsaKecFzaDohDfcbeDpjIhaDreBqbYvbCwmGtaBRseEJcbWDvbFdaCneiaVgcLjdMpaBDBoaLIl",
      "eEItaBHeb"] },
    { names := ["ps", "openpunctuation"]
      packed := ["BoaByaBfaFPeabaCUoaDPmadaBmaCdapaYkabaBeaBPuababababababaDcaBgababababaPoababababababa",
      "babababaCmabaBhaBOvabababazasabababaQmababababadabababacaCZRtaIhaBdabababababababadara",
      "babaGoaByaBfadaca"] },
    { names := ["sc", "currencysymbol"]
      packed := ["BkaEvdBWjaEtaTebTebhaJlaKdaWjaDQpaDIiBhBZHuaBGMlaEeaFyaIlbdbMCsdCVXeaDRka"] },
    { names := ["sk", "modifiersymbol"]
      packed := ["DqabaCtagaeadaUbdmnfgbabqEnaobBXiaIUmabclcncncnbGHobBSVrwjbDzbBLoaobBEKkqBIhabaGgaDOLj",
      "e"] },
    { names := ["sm", "mathsymbol"]
      packed := ["BraqcCjabaBtaeaBlaBfaBDmaUhcJYhanaBncncFjaBnegaCqefbeacacahaBfbcabaBfKhBgbDmaBeyBofSba",
      "jaCchEhaMyecBekpJwFawCkeBfcJxBwucfDASqaBFsabcGiaqcCjabaFbagdFEfbCVGaaCYyazaBfazaBfazaB",
      "fazaBfazaIUebDTei"] },
    { names := ["so", "othersymbol"]
      packed := ["GkacaeabaBLpaKgbExbHyakatbJnaTvaOjaFafbaFcaHzaBpaPbcpabccfuababaFdhbfbbfdHpbBCyjBBvaBB",
      "uaGbBhNpjjiCChbbdbbkabbgfbababaealboabbbaCgbjecdbbbbbgbBecbbabBeKihetcgcDcbBdzBngCtwkD",
      "dCzwHabibCbiEgbJnBsBrCmJvTsBvvbgBmcFhIvfNtbBuzbDkmIfBapeanbmavbgbMybejBgBljaqBelBdiapB",
      "fkBmpMhJToClBGUiCcBHhdkbbaWbcBEUjpObpCmbCchBtcSqadaebnbMbiCfqccbmdaBvBsCLubWtaBNshDEsa",
      "DGnheqBCNidfaBEUwaFVnJfkcdQtgwppDsElCiJlkBmcChfcwbhBdeCivCndaHeDiBTxTrCddByhbnbbCOuaEH",
      "waEzaBBtBreDvmocobobBkxGeCeBcnBreihbofFyJqfBCadqdmdIjgleapleCdijgBniBdclebCkNfincmdkdC",
      "ebaepclejhFqbDnka"] },
    { names := ["zl", "lineseparator"]
      packed := ["MEqa"] },
    { names := ["zp", "paragraphseparator"]
      packed := ["MEra"] },
    { names := ["zs", "spaceseparator"]
      packed := ["BgaExaIHjaDPnkBkaBvaFXwa"] } ]

end Transcript.Unicode
