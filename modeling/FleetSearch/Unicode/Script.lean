import FleetSearch.Unicode.Code

set_option autoImplicit false

namespace FleetSearch.Unicode

def scriptNames : List (List String) :=
  (scriptNameText.splitOn ",").map fun names => names.splitOn " "
where
  scriptNameText : String :=
    String.join
      ["Zzzz Unknown,Adlm Adlam,Aghb Caucasian_Albanian,Ahom,Arab Arabic,Armi Imperial_Aramaic,A",
       "rmn Armenian,Avst Avestan,Bali Balinese,Bamu Bamum,Bass Bassa_Vah,Batk Batak,Beng Bengal",
       "i,Bhks Bhaiksuki,Bopo Bopomofo,Brah Brahmi,Brai Braille,Bugi Buginese,Buhd Buhid,Cakm Ch",
       "akma,Cans Canadian_Aboriginal,Cari Carian,Cham,Cher Cherokee,Chrs Chorasmian,Copt Coptic",
       " Qaac,Cpmn Cypro_Minoan,Cprt Cypriot,Cyrl Cyrillic,Deva Devanagari,Diak Dives_Akuru,Dogr",
       " Dogra,Dsrt Deseret,Dupl Duployan,Egyp Egyptian_Hieroglyphs,Elba Elbasan,Elym Elymaic,Et",
       "hi Ethiopic,Gara Garay,Geor Georgian,Glag Glagolitic,Gong Gunjala_Gondi,Gonm Masaram_Gon",
       "di,Goth Gothic,Gran Grantha,Grek Greek,Gujr Gujarati,Gukh Gurung_Khema,Guru Gurmukhi,Han",
       "g Hangul,Hani Han,Hano Hanunoo,Hatr Hatran,Hebr Hebrew,Hira Hiragana,Hluw Anatolian_Hier",
       "oglyphs,Hmng Pahawh_Hmong,Hmnp Nyiakeng_Puachue_Hmong,Hung Old_Hungarian,Ital Old_Italic",
       ",Java Javanese,Kali Kayah_Li,Kana Katakana,Kawi,Khar Kharoshthi,Khmr Khmer,Khoj Khojki,K",
       "its Khitan_Small_Script,Knda Kannada,Krai Kirat_Rai,Kthi Kaithi,Lana Tai_Tham,Laoo Lao,L",
       "atn Latin,Lepc Lepcha,Limb Limbu,Lina Linear_A,Linb Linear_B,Lisu,Lyci Lycian,Lydi Lydia",
       "n,Mahj Mahajani,Maka Makasar,Mand Mandaic,Mani Manichaean,Marc Marchen,Medf Medefaidrin,",
       "Mend Mende_Kikakui,Merc Meroitic_Cursive,Mero Meroitic_Hieroglyphs,Mlym Malayalam,Modi,M",
       "ong Mongolian,Mroo Mro,Mtei Meetei_Mayek,Mult Multani,Mymr Myanmar,Nagm Nag_Mundari,Nand",
       " Nandinagari,Narb Old_North_Arabian,Nbat Nabataean,Newa,Nkoo Nko,Nshu Nushu,Ogam Ogham,O",
       "lck Ol_Chiki,Onao Ol_Onal,Orkh Old_Turkic,Orya Oriya,Osge Osage,Osma Osmanya,Ougr Old_Uy",
       "ghur,Palm Palmyrene,Pauc Pau_Cin_Hau,Perm Old_Permic,Phag Phags_Pa,Phli Inscriptional_Pa",
       "hlavi,Phlp Psalter_Pahlavi,Phnx Phoenician,Plrd Miao,Prti Inscriptional_Parthian,Rjng Re",
       "jang,Rohg Hanifi_Rohingya,Runr Runic,Samr Samaritan,Sarb Old_South_Arabian,Saur Saurasht",
       "ra,Sgnw SignWriting,Shaw Shavian,Shrd Sharada,Sidd Siddham,Sind Khudawadi,Sinh Sinhala,S",
       "ogd Sogdian,Sogo Old_Sogdian,Sora Sora_Sompeng,Soyo Soyombo,Sund Sundanese,Sunu Sunuwar,",
       "Sylo Syloti_Nagri,Syrc Syriac,Tagb Tagbanwa,Takr Takri,Tale Tai_Le,Talu New_Tai_Lue,Taml",
       " Tamil,Tang Tangut,Tavt Tai_Viet,Telu Telugu,Tfng Tifinagh,Tglg Tagalog,Thaa Thaana,Thai",
       ",Tibt Tibetan,Tirh Tirhuta,Tnsa Tangsa,Todr Todhri,Toto,Tutg Tulu_Tigalari,Ugar Ugaritic",
       ",Vaii Vai,Vith Vithkuqi,Wara Warang_Citi,Wcho Wancho,Xpeo Old_Persian,Xsux Cuneiform,Yez",
       "i Yezidi,Yiii Yi,Zanb Zanabazar_Square,Zinh Inherited Qaai,Zyyy Common"]

def scriptPlace (code : String) : Nat :=
  scriptNames.findIdx fun names => names.head? == some code

def scriptRuns : String :=
  String.join
    ["cAfKZcJFfKZcJbOfKAcJOfKAcJEfKWcJAfK+cJAfKoAcJbGfKEcJEfKBOTfKdPfJDbNAfKCbNBADbNAfKAbNDAAbNA",
     "fKAbNAfKCbNAAAbNAATbNAAb+bNNZPbNeE8BfJfI8AAbFGBAbRGBACGAAbWbVHA6bVDAFbVKAEEAfKFEAfKNEAfKCE",
     "AfK-EAfKJEKfJZEAfJdLEAfKbBENeMAAb7eMBACeMbPEbReXNAb6dGBACdGbNd8BAOd8AA7cTBAAcTAAKeMEA+EAAB",
     "EEAcKEAfK8EcQ9DfJO9BfKZ9DMAAHMBABMBAVMAAGMAAAMCADMBAIMBABMBADMHAAMDABMAAEMBAYMBACbQAAFbQDA",
     "BbQBAVbQAAGbQAABbQAABbQAABbQBAAbQAAEbQDABbQBACbQCAAbQGADbQAAAbQGAQbQJACbOAAIbOAACbOAAVbOAA",
     "GbOAABbOAAEbOBAJbOAACbOAACbOBAAbOOADbOBALbOGAGbOAACdMAAHdMBABdMBAVdMAAGdMAABdMAAEdMBAIdMBA",
     "BdMBACdMGACdMDABdMAAEdMBARdMJABeRAAFeRCACeRAADeRCABeRAAAeRAABeRCABeRCACeRCALeRDAEeRCACeRAA",
     "DeRBAAeRFAAeRNAUeREAMeUAACeUAAWeUAAPeUBAIeUAACeUAADeUGABeUAACeUBAAeUBADeUBAJeUGAIeUMcEAACc",
     "EAAWcEAAJcEAAEcEBAIcEAACcEAADcEGABcEFABcEAADcEBAJcEAACcELAMc6AACc6AAbSc6AACc6AAFc6DAPc6BAZ",
     "c6AACeEAAReECAXeEAAIeEAAAeEBAGeECAAeEDAFeEAAAeEAAHeEFAJeEBACeELAbZeYDAAfK7eYbEABcIAAAcIAAE",
     "cIAAXcIAAAcIAAWcIBAEcIAAAcIAAGcIAAJcIBADcI-AcHeZAAbDeZDAbGeZAAbDeZAAOeZAAGeZDfKBeZbEAe-dAb",
     "FbHAAAbHEAAbHBAbKbHAfKDbHh-bRcIbFAADbFBAGbFAAAbFAADbFBAbIbFAADbFBAbAbFAADbFBAGbFAAAbFAADbF",
     "BAObFAAbYbFAADbFBAcCbFBA-bFCAZbFFAcVXBAFXBAt-U8dICAcKd7CfKKd7GAVeWIAAeWUbTBfKIATSLAMeNAACe",
     "NAABeNLAc9cBBAJcBFAJcBFABc8BfKAc8AfKTc8FAcYc8GAbKc8EAcFUJA+cLAALcLDALcLDAAcLCALcL9ePBAEePK",
     "AbLeQDAZeQFAKeQCABeQ-cB7RBABRb+cHAA8cHBAKcHFAJcHFANcHBA+fJbQAcMIAAbRIb-eJbTLHADLbXcKCAOcKC",
     "ACcKbPdJK8EAbKbHBACbHHeJHACfJAfKMfJAfKGfJDfKAfJFfKAfJCfKBfJAfKEAbFcJEbNA8bQcJEbNDcJEbNMcJA",
     "8cFcJAbNb-fJh-cJVbNBAFbNBAbFbNBAFbNBAHbNAAAbNAAAbNAAAbNAA+bNBAbUbNAAObNAANbNBAFbNAASbNBACb",
     "NAAIbNAALfKBfJcWfKAAKfKAcJBAKfKAcJOfKAAMcJCAbAfKOAbAfJOAbFfKAbNCfKBcJFfKAcJ6fKAcJQfKbIcJCf",
     "KDAuZfKVAKfKUA2-fKh-QtTfKBA-fKAAdIfKc-bI-cJdTZEAGZbFbHAAAbHEAAbHBAbXeVGABeVNAAeVWbFIAGbFAA",
     "GbFAAGbFAAGbFAAGbFAAGbFAAGbFAAGbFAA-8c9fKbBAZbSAAcYbSLAgVbSZAUfKAbSAfKAbSYfKIbSDfJBbRHfKDb",
     "SDfKAAcVbWBABfJBfKCbWAfKcZb+BfKCb+EAbKOAAc9bRAAPfK-ObFfKIAAfKPb++bRAAb-fK+bRcQfKbOb+AfKcXb",
     "+fHfKgn-bSb-fKup-bSbeMfHCAbWfHIAbPcOjLfATAc-8cXJHAbBfKdFcJCfKcCcJBABcJAAAcJAAHcJUANcJbMeLC",
     "AJfKFAbXdTHAcFd+HALd+FA-9bNb9AfKAb9bDdZKAAdZ8bRCAcNb8AAAfKJb8DABb8+dAAAbWWIANWBAJWBADW-dAc",
     "CeTXAEeTWc+JAFbFBAFbFBAFbFIAGbFAAGbFAAbKcJAfKIcJAbNDcJBfKDAcPXbNc+BAJc+FAk3DbRLAWbRDAbQbRi",
     "iDAlNbSBAdJbSbFAGcJLAEGEAZbVAAEbVAAAbVAABbVAABbVAAJbVdSEPAlKEBfKcPEBAbVEGAAE-APEPfJJfKFANf",
     "JB8bCfKAASfKAADfKDAEEAAeGEBAAfKAA-fKZcJFfKZcJKfKJb+AfKbMb+BfK+bRCAFbRBAFbRBAFbRBACbRCAGfKA",
     "AGfKJAEfKBALcNAAZcNAAScNAABcNAAOcNBANcNbBAd6cNEACfKDAbMfKCAIfKcObNAAMfKCAAbNbOAbMfKAfJeBA8",
     "cPCAbQVOAAfJ6fKDAbDb7IACb76bLEAbKdSEA9e-AAAe-bDfEDANfEbJAcPbAbPeA9dOBAJdOFAbDdNDAbDdNDAbHb",
     "DHAbTCKAACKfBAAOfBAAGfBAABfBAAKfBAAOfBAAGfBAABfBCAbTe8LAjWcMIAVcMJAHcMXAFcJAAbJcJAAIcJcEAF",
     "7BAA7AAbL7AAB7CAA7BAA7VFAAIF-dQ+dEHAIdEbPASbUAABbUEAEbU7dWCAAdWZcQEAAcQb-A-cZXcYDATcYBAbNc",
     "YDcAAABcAEAHcAAACcAAA8cABACcADAJcAGAIcAGA-d9-dD-AbGcUDALcUIAbVHCAGHVdYBAHdYSdUEAHdURdVGADd",
     "VLAGdVcPAcIdLbWAbSb6MAbSb6GAFb6bHd6HAJd6FAbFbGCA8bGHABbGgPA+EAAbJfGAACfGBABfGPACEbWADEbHeG",
     "HAbJeFVAZdPbFA7YTAWbEIAcNPDAbDPIAAPcCcGJAAcGBAYeHGAJeHFAbUTAARTHAbGcRIAc-eBAATeEKARcCAAbOc",
     "Cb9AGc-AAAc-AADc-AAOc-AAKc-FAb6eDEAJeDFADbMAAHbMBABbMBAVbMAAGbMAABbMAAEbMAAAfJIbMBABbMBACb",
     "MBAAbMFAAbMEAGbMBAGbMCAEbMKAJe+AAAe+BAAe+AAbFe+AAJe+AAAe+BAAe+AADe+AAJe+AABe+HABe+8Ac7dFAA",
     "EdF9AcHe6HAJe6fFAbVeCBAbFeCbBAcEc7KAJc7FAMc8SAbZeOFAJeOFATdA7A6DBAODDAWDfYAb7-dDAcSfCLAAfC",
     "G+BAA+BAH+AAB+AA9+AAB+BAL+IAJ+cFAHdCBAbNdCBAKdC6AcHfIHAcSeIMAPUbYdRGAJ9fVAbBeKNAJeKFAINAAb",
     "MNAANNJA8NCA-cVBAVcVAANcVcIAGbKAABbKAAbLbKCAAbKAABbKAAIbKHAJbKFAFbJAABbJAAbEbJAABbJAAFbJGA",
     "JbJjVAYcSGAQb-AAbIb-CA8b-cUAAcOOAbReRMAAeR2ZfFdFAdOfFAAEfFKAgDfFcsLAdC6MAbcVbCJAd26bCEAsGb",
     "XgvYAbZbPbwFArYJGA+c9AAJc9DABc9cOe7AAJe7FA9KBAFKJAcFbYJAJbYAAGbYAAUbYEASbYnPAbZcFgFAc6cWdE",
     "AcKdXDAbYdXGAQdXb-AAeSAdHBbSAcDKABbSNAf5XeSHAx-eSoVcDbIAAcDIeSixGADb+AAGb+AABb+AAAb+i+bWCb",
     "+OAAbW8ACbWBAAb+NADb+HAmLdHciDAdKbBEAMbBCAIbBGAJbBBADbBDfKd07AhZfKFAnTfKcLAbNfJBAWfJIAdTfK",
     "b7AhVfKJAbGfKBAb9fKCfJQfKHfJBfKGfJ9fKDfJb8fKUAcFbNdZATfKLATfKLAcWfKIAYfKeGAcUfKAAcGfKAABfK",
     "BAAfKBABfKBADfKAALfKAAAfKAAGfKAAcAfKAADfKBAHfKAAGfKAA7fKAADfKAAEfKAAAfKCAGfKAAkTfKBAjDfKBA",
     "bRfKuLd-OAEd-AAOd-bcPA+cJFAFcJgUAGbIAAQbIBAGbIAABbIAAEbIEAb98bAAA8dPAbMbZCANbZBAJbZDABbZj-",
     "A+e9QAbZfDEAAfDoPAbJdBgVAbKdKDAAdKo-AGbFAADbFAABbFAAObFAAgEcXBAPcXbIAcLBDAJBDABByQAcDfKcLA",
     "b8fKgBADEAA6EAABEAAAEBAAEAAJEAADEAAAEAAAEFAAEDAAEAAAEAAAEAACEAABEAAAEBAAEAAAEAAAEAAAEAAAEA",
     "ABEAAAEBADEAAGEAADEAADEAAAEAAJEAAQEEACEAAEEAAQEbTABEiNAbLfKDAdDfKLAOfKBAOfKAAOfKAAbEfKJAfN",
     "fKbXAZfKAbWBfKMAbLfKDAIfKGABfKNAFfKeZA4XfKDAQfKCAMfKCAdWfKDAc+fKFALfKDAAfKOALfKDAbXfKHAJfK",
     "FAbHfKHA9fKBALfKDABfKb9AkTfKLANfKBAMfKCAJfKEAbXfKGAOfKBAKfKFAIfKGAeSfKAAdFfKbaFAbjw-bS-Aeb",
     "ZbSFAg9bSBAfuBbSNAhjQbSOAtNbScnBAq9bSbpBAe0KbSEAec-bSvxcQAAfK9Ac-fKd-AhPfJf5qPA"]

def scriptTable : List (Nat × Nat × Nat) :=
  runs (numbers scriptRuns.toList) 0

def extensionSets : List (List String) :=
  (extensionSetText.splitOn " ").map fun codes => codes.splitOn ","
where
  extensionSetText : String :=
    String.join
      ["Adlm,Arab Adlm,Arab,Gara,Nkoo,Rohg,Syrc,Thaa,Yezi Adlm,Arab,Hung Adlm,Arab,Mand,Mani,Oug",
       "r,Phlp,Rohg,Sogd,Syrc Aghb,Cher,Copt,Cyrl,Goth,Grek,Latn,Osge,Syrc,Tfng,Todr Aghb,Cher,G",
       "oth,Latn,Sunu,Syrc,Thai Aghb,Latn,Todr Arab,Copt Arab,Gara,Nkoo,Rohg,Syrc,Thaa,Yezi Arab",
       ",Nkoo Arab,Rohg Arab,Syrc Arab,Syrc,Thaa Arab,Thaa Arab,Thaa,Yezi Armn,Cyrl,Dupl,Goth,Gr",
       "ek,Hebr,Latn,Perm,Syrc,Tale,Tfng Armn,Geor,Glag Avst,Cari,Copt,Dupl,Elba,Geor,Glag,Gong,",
       "Goth,Grek,Hani,Latn,Lydi,Mahj,Perm,Shaw Avst,Cari,Geor,Hung,Kthi,Lydi,Samr Avst,Orkh Ben",
       "g Beng,Cakm,Sylo Beng,Cyrl,Deva,Latn,Lisu,Thai,Toto Beng,Deva Beng,Deva,Dogr,Gong,Gonm,G",
       "ran,Gujr,Gukh,Guru,Knda,Limb,Mahj,Mlym,Nand,Onao,Orya,Sind,Sinh,Sylo,Takr,Taml,Telu,Tirh",
       " Beng,Deva,Dogr,Gong,Gonm,Gran,Gujr,Guru,Knda,Mahj,Mlym,Nand,Onao,Orya,Sind,Sinh,Sylo,Ta",
       "kr,Taml,Telu,Tirh Beng,Deva,Gran,Gujr,Guru,Knda,Latn,Mlym,Nand,Newa,Orya,Shrd,Taml,Telu,",
       "Tirh Beng,Deva,Gran,Gujr,Guru,Knda,Latn,Mlym,Newa,Orya,Taml,Telu,Tirh Beng,Deva,Gran,Knd",
       "a Beng,Deva,Gran,Knda,Mlym,Nand,Orya,Sinh,Telu,Tirh,Tutg Beng,Deva,Newa,Shrd Beng,Deva,N",
       "ewa,Telu Beng,Deva,Newa,Telu,Tirh Beng,Deva,Shrd Beng,Deva,Telu Beng,Deva,Tutg Bopo,Hang",
       ",Hani,Hira,Kana Bopo,Hang,Hani,Hira,Kana,Lisu,Mong,Tibt,Yiii Bopo,Hang,Hani,Hira,Kana,Mo",
       "ng,Phag,Yiii Bopo,Hang,Hani,Hira,Kana,Mong,Tibt,Yiii Bopo,Hang,Hani,Hira,Kana,Mong,Yiii ",
       "Bopo,Hang,Hani,Hira,Kana,Yiii Bopo,Hani Bopo,Latn Bugi,Java Buhd,Hano,Tagb,Tglg Cakm,Mym",
       "r,Tale Cari,Geor,Glag,Hung,Lyci,Orkh Cari,Grek,Hung,Mero Cher,Copt,Cyrl,Grek,Latn,Perm,S",
       "unu,Tale Cher,Cyrl,Grek,Latn,Osge,Sunu,Tale,Todr Cher,Cyrl,Latn,Osge Cher,Cyrl,Latn,Tfng",
       " Cher,Dupl,Kana,Latn,Syrc,Tfng Cher,Dupl,Latn,Syrc Cher,Latn,Syrc Cher,Latn,Tale Copt,Du",
       "pl,Hebr,Latn,Perm,Syrc,Tale,Tfng,Todr Copt,Elba,Glag,Goth,Kana,Latn Copt,Grek Copt,Latn ",
       "Cpmn,Cprt,Linb Cprt,Lina,Linb Cprt,Linb Cyrl,Glag Cyrl,Grek,Latn,Perm,Tfng Cyrl,Latn Cyr",
       "l,Latn,Syrc Cyrl,Latn,Todr Cyrl,Perm Deva Deva,Dogr,Gujr,Guru,Khoj,Knda,Kthi,Mahj,Mlym,M",
       "odi,Nand,Shrd,Sind,Takr,Tirh,Tutg Deva,Dogr,Gujr,Guru,Khoj,Knda,Kthi,Mahj,Modi,Nand,Shrd",
       ",Sind,Takr,Tirh,Tutg Deva,Dogr,Gujr,Guru,Khoj,Kthi,Mahj,Modi,Shrd,Sind,Takr,Tirh Deva,Do",
       "gr,Gujr,Guru,Khoj,Kthi,Mahj,Modi,Sind,Takr,Tirh Deva,Dogr,Kthi,Mahj Deva,Gran Deva,Gran,",
       "Knda Deva,Gran,Knda,Tutg Deva,Gran,Latn Deva,Knda,Mlym,Orya,Taml,Telu Deva,Nand,Newa Dev",
       "a,Newa Deva,Newa,Shrd Deva,Newa,Tirh Deva,Shrd Deva,Taml Dupl Dupl,Latn,Syrc Ethi,Latn G",
       "eor,Glag,Latn Glag,Latn,Sunu,Syrc,Thai Gran,Taml Grek Grek,Latn,Perm,Todr Gujr,Khoj Guru",
       ",Mult Hani Hani,Hira,Kana Hani,Latn Hani,Tang Hira,Kana Kali,Latn,Mymr Knda,Nand,Tutg La",
       "tn Latn,Lisu Latn,Mong,Phag Latn,Osge Latn,Sunu Latn,Sunu,Syrc Latn,Syrc Latn,Tfng Latn,",
       "Thai Mani,Ougr Mong,Phag Nand Runr Syrc"]

-- The gap before a run, its size less one, and the place of its script set.
def extensionRuns : String :=
  String.join
    ["fXARqEAWKAbLBCbLBAdJJAdQBAbLbGAbRAAbSAAbUAAc7AAEAAb6AAcBAAbZAAPAAdPAAcYAAbTAAbYAAdMAAcZBAd",
     "MAAcEBAc+PAbVAAbWAAdOHAdNAAdOBAbXAAFQAc9CAc9SAdLFAGEMdIEBb7iNAcFAAcAABcCAAcAiBAQeCAIOAIAAM",
     "CABbAADKKLKJOGALdDAKt8A6AA7RAZAAYAJcLdWJVdWJdAdWJc-hWNc8hSJdH0QJbOfRAc6bpPCdUcHBbNgLBdSBAd",
     "SbgKA8AAcGAA8AAcNAAcGAAbAAAbCAAcTAA-AAcVAAcQAAcGABcVABcGAAcVAAXAAcUAFcGAAcRAAbBAAcSAAcGAA+",
     "ADcGAA9AAcMAAcOABXAAUABcMAAdTgFBc9bWAcDBAdVrUAdK-AAKAbPCAbQeSAcPdjGAb8YATAASKAcXEACBAcAnMP",
     "dEBAbIAAbGAAbECAdBBBbHABbFAFbJBAbEAHbJADbEKDbKCAbEAEdFBAbEEBdCABdBcZDdFDAdFc6AbJAAdFeTPdBb",
     "AbFdBJAdEbQbHdBbYbQdBPLdBbTAdBcYYdBKEdBdA+dB2tQAcAeQHdDjICcHACcIABcKAAcJAAcKfXAbDBAcWb6AdG",
     "fAAbMu1OBJfSANKANcHBbEi6EbJKAdFbNBdFlABb9AAb-EbMb+DIb-nA7Hb5WAdRcaOAc8BAc8bXBc8deTBc8BAc8b",
     "hgMDcXfv8RdBhw+BdB"]

def extensionTable : List (Nat × Nat × Nat) :=
  spacedRuns (numbers extensionRuns.toList) 0

def withScript (place : Nat) : CharSet :=
  CharSet.ofSorted (scriptTable.filterMap fun (low, high, at') =>
    if at' = place then some (low, high) else none)

def withExtension (place : Nat) : CharSet :=
  let code := (scriptNames[place]?.bind List.head?).getD ""
  let inside := extensionTable.filterMap fun (low, high, set) =>
    if (extensionSets[set]?.getD []).contains code then some (low, high) else none
  let outside := extensionTable.filterMap fun (low, high, set) =>
    if (extensionSets[set]?.getD []).contains code then none else some (low, high)
  ((withScript place).union (CharSet.ofSorted inside)).diff (CharSet.ofSorted outside)

end FleetSearch.Unicode
