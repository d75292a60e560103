import FleetSearch.Unicode.Code

set_option autoImplicit false

/-!
General categories, of Unicode 16.
-/

namespace FleetSearch.Unicode

def categoryCodes : List String :=
  ["Lu", "Ll", "Lt", "Lm", "Lo", "Mn", "Mc", "Me", "Nd", "Nl", "No", "Pc", "Pd", "Ps", "Pe",
    "Pi", "Pf", "Po", "Sm", "Sc", "Sk", "So", "Zs", "Zl", "Zp", "Cc", "Cf", "Cs", "Co", "Cn"]

-- From the first character on: the size of a run less one, and the place of its category.
def categoryRuns : String :=
  String.join
    ["-ZAWCRATCRANAOARASARAMBRJIBRCSBRZAANARAOAUALAUZBANASAOASbAZAWARDTAVARAUAVAEAPASA6AVAUAVASB",
     "KAUABBRAUAKAEAQCKARWAASGAXBASHBAAABAAABAAABAAABAAABAAABAAABAAABAAABAAABAAABAAABAAABAAABAAA",
     "BAAABAAABAAABAAABAAABAAABAAABAAABAAABAAABAAABAAABAABBAAABAAABAAABAAABAAABAAABAAABAABBAAABA",
     "AABAAABAAABAAABAAABAAABAAABAAABAAABAAABAAABAAABAAABAAABAAABAAABAAABAAABAAABAAABAAABAAABBAA",
     "BAAABAACBBAABAAABBAABCABBDAABBAABCACBBAABBAABAAABAAABBAABAABBAAABBAABCAABAAABBABBAEAACBDEA",
     "AACABAAACABAAACABAAABAAABAAABAAABAAABAAABAAABAABBAAABAAABAAABAAABAAABAAABAAABAAABAABBAAACA",
     "BAAABCAABAAABAAABAAABAAABAAABAAABAAABAAABAAABAAABAAABAAABAAABAAABAAABAAABAAABAAABAAABAAABA",
     "AABAAABAAABAAABAAABAAABAAABAAABAAGBBAABBABBAAABDAABAAABAAABAAABAAcEBBEZBRDDULDNUEDGUADAUAD",
     "QUdPFAAABAAABADAUAAABB9ADCBARAAD9BUAAARCAA9AAA9BAABQAA9IAbCBAABBCACBAAABAAABAAABAAABAAABAA",
     "ABAAABAAABAAABAAABAAABAAEBAAABASAAABBABBbSAbPBAAABAAABAAABAAABAAABAAABAAABAAABAAABAAABAAAB",
     "AAABAAABAAABAAABAAABAAABAVEFBHAAABAAABAAABAAABAAABAAABAAABAAABAAABAAABAAABAAABAAABAAABAAAB",
     "AAABAAABAAABAAABAAABAAABAAABAAABAAABAAABAAABAAABBAABAAABAAABAAABAAABAAABAABBAAABAAABAAABAA",
     "ABAAABAAABAAABAAABAAABAAABAAABAAABAAABAAABAAABAAABAAABAAABAAABAAABAAABAAABAAABAAABAAABAAAB",
     "AAABAAABAAABAAABAAABAAABAAABAAABAAABAAABAAABAAABAAABAAABAAABAAABAAABAAABAAABAAABAAABAAABA9",
     "bFAB9ADFRbIBARAMB9BVATA9bMFAMAFARBFARBFARAFH96ED9DEBRK9F6CSBRATBRBVKFARA6CR-EADJEUFJIDRBEA",
     "FdCEARAEGFA6AVFFBDBFAVDFBEJICEBVAENRA9A6AEAF9E6FB9cYEKFAEN9JIbAEIFBDAVCRADB9AFBTVEDFADIFAD",
     "CFADEFB9ORA9YECFB9ARA9KEE9XEAUFEA9B6E9IFbIEADXFA6-FAGbVEAFAGAFAECGHFDGAFBGAEGFJEBFBRJIARAD",
     "OEAFBGA9HEB9BEB9VEA9GEA9AEC9DEB9AFAECGDFB9BGB9BGAFAEH9AGD9BEA9CEBFB9JIBEBTFKAVATAEARAFB9BF",
     "AGA9FED9BEB9VEA9GEA9BEA9BEA9BEB9AFA9CGBFD9BFB9CFC9AFG9DEA9AEG9JIBFCEAFARJ9BFAGA9IEA9CEA9VE",
     "A9GEA9BEA9EEB9AFAECGEFA9BFAGA9BGAFB9AEO9BEBFB9JIARATG9AEFFA9AFBGA9HEB9BEB9VEA9GEA9BEA9EEB9",
     "AFAEAGAFAGDFB9BGB9BGAFG9BFAGD9BEA9CEBFB9JIAVAEFKJ9AFAEA9FEC9CEA9DEC9BEA9AEA9BEC9BEC9CEC9LE",
     "D9BGAFBGC9CGA9CGAFB9AEF9AGN9JICKFVATAVE9AFCGAFHEA9CEA9WEA9PEB9AFAECFDGA9CFA9DFG9BFA9CEB9AE",
     "B9BEBFB9JIG9ARGKAVAEAFBGARHEA9CEA9WEA9JEA9EEB9AFAEAGAFEGA9AFBGA9BGBFG9BGF9BEA9BEBFB9JIA9BE",
     "AGL9BFBGIEA9CEA9bIEBFAECGDFA9CGA9CGAFAEAVD9CEAGGKCEBFB9JIIKAVFEA9AFBGA9REC9XEA9IEA9AEB9GEC",
     "9AFD9CGCFA9AFA9HGF9JIB9BGARL9bPEAFBEGFD9ATFEADHFARJIBRbE9BEA9AEA9EEA9XEA9AEA9JEAFBEIFAEB9E",
     "EA9ADA9GFA9JIB9DE-9AECVORAVARCVBFFVJIJKAVAFAVAFAVAFANAOANAOBGHEA9bDED9NFAGEFARBFEEKFA9bDFA",
     "9HVAFFVA9BVERDVBRbE9bKEBGDFAGFFAGBFBGBFAEJIFRFEBGBFDECFAECGBEGGCEDFMEAFBGBFFGAFAEAGJICGAFB",
     "VbFAA9AAE9AAB9bKBARADCBkIEA9DEB9GEA9AEA9DEB9bIEA9DEB9bAEA9DEB9GEA9AEA9DEB9OEA9bYEA9DEB9cCE",
     "B9CFIRTKC9PEJVF9cVAB9FBB9AMtLEAVARQEAWZEANAOC9cKECRCJHEG9RECFAGI9SEBFAGBRI9REBFL9MEA9CEA9B",
     "FL9bTEBFAGGFHGAFBGKFCRADCRATAEAFB9JIF9JKF9FRAMDRCFA6AFJIF9bCEADbUEG9EEBFbBEAFAEE9cFEJ9+EA9",
     "CFDGBFCGD9BGAFFGCFD9AVC9BRJI9EB9EEK9bLED9ZEF9JIAKC9bBVWEBFBGAFB9BRbUEAGAFAGGFA9AFAGAFBGHFF",
     "GJFB9AFJIF9JIF9GRADFRB9NFAHPFbQ9DFAGbOEAFAGEFAGAFEGAFBGHEA9BRJIGRJVIFIVCRBFAG9EAGDFBGBFAGC",
     "FBEJIbLEAFAGBFCGAFAGCFBGH9DRbDEHGHFBGBFC9ERJIC9CEJI9EFDBRIBAAABE9bKAB9CAHRH9CFARMFAGGFDEAF",
     "FEAFBEAGBFAEE9bLBb+DMBADbBBbEDb-FAAABAAABAAABAAABAAABAAABAAABAAABAAABAAABAAABAAABAAABAAABA",
     "AABAAABAAABAAABAAABAAABAAABAAABAAABAAABAAABAAABAAABAAABAAABAAABAAABAAABAAABAAABAAABAAABAAA",
     "BAAABAAABAAABAAABAAABAAABAAABAAABAAABAAABAAABAAABAAABAAABAAABAAABAAABAAABAAABAAABAAABAAABA",
     "AABAAABAAABAAABAAABAAABAAABAAABAAABAAABAAABAAABAAABAAABAAABAAIBAAABAAABAAABAAABAAABAAABAAA",
     "BAAABAAABAAABAAABAAABAAABAAABAAABAAABAAABAAABAAABAAABAAABAAABAAABAAABAAABAAABAAABAAABAAABA",
     "AABAAABAAABAAABAAABAAABAAABAAABAAABAAABAAABAAABAAABAAABAAABAAABAAABAAABAAABAAIBHAFBB9FAB9H",
     "BHAHBHAFBB9FAB9HBA9AAA9AAA9AAA9AAHBHANBB9HBHCHBHCHBHCEBA9BBDAACAUABCUCBA9BBDAACCUDBB9BBDAA",
     "9CUHBEACUB9CBA9BBDAACBUA9KWE6FMBRAPAQANBPAQANAPHRAXAYE6AWIRAPAQDRBLCRASANAOKRASARALJRAWE6A",
     "9J6AKADB9FKCSANAOADJKCSANAOA9MDC9bATO9MFDHAFCHLFO9BVAADVAABVABCABBCAABAVAABVASEAFVAAAVAAAV",
     "AAAVDAAVABDAABDEABBVBBBAESAADBAVASBVABAVPKbCJAAABDJAKBVD9ESEVBSDVASBVASBVASGVAS+VBSBVASAVA",
     "S+ViLSHVANAOANAOTVBSGVANAOcQVAS9VYSbHVFScHVV9KVU9b7KcNVVKfWVASIVASbVVHSdOVAShXVANAOANAOANA",
     "OANAOANAOANAOANAO9KbLVESANAO+SANAOANAOANAOANAOANAOPSh-VeCSANAOANAOANAOANAOANAOANAOANAOANAO",
     "ANAOANAOANAOb+SANAOANAO-SANAOiBSbPVUSBVFSbGVB9-VA9dIVbPAbPBAAABCABBAAABAAABAAABDAABAABBAAF",
     "BBDCAABAAABAAABAAABAAABAAABAAABAAABAAABAAABAAABAAABAAABAAABAAABAAABAAABAAABAAABAAABAAABAAA",
     "BAAABAAABAAABAAABAAABAAABAAABAAABAAABAAABAAABAAABAAABAAABAAABAAABAAABAAABAAABAAABAAABAAABA",
     "AABAAABAAABAAABAAABAABBFVAAABAAABCFAAABE9DRAKBRbFBA9ABE9ABB9bXEG9ADARN9AFWEI9GEA9GEA9GEA9G",
     "EA9GEA9GEA9GEA9GEA9-FBRAPAQAPAQCRAPAQARAPAQIRAMBRAMARAPAQBRAPAQANAOANAOANAOANAOERADJRBMDRA",
     "MARANMRBVCRANAOANAOANAOANAOAMbB9ZVA9cYVL9gVVZ9PVAWCRAVADAEAJANAOANAOANAOANAOANAOBVANAOANAO",
     "ANAOANAOAMANBOAVIJDFBGAMEDBVCJADAEARBVA9cVEB9BFBUBDAEAMcZEARCDAEE9bKEA9c9EA9BVDKJV-EbFVI9A",
     "VPE+VA9JK9VHKAVOK-VJKbGVOKj-Vgn-Eb-VuqUEADbdWEC9bWVI9bHEFDBRiLEADCRPEJIBET9AAABAAABAAABAAA",
     "BAAABAAABAAABAAABAAABAAABAAABAAABAAABAAABAAABAAABAAABAAABAAABAAABAAABAAABAAABAEAFCHARJFARA",
     "DAAABAAABAAABAAABAAABAAABAAABAAABAAABAAABAAABAAABAAABAAABBDBFcFEJJBFFRH9WUIDBUAAABAAABAAAB",
     "AAABAAABAAABAACBAAABAAABAAABAAABAAABAAABAAABAAABAAABAAABAAABAAABAAABAAABAAABAAABAAABAAABAA",
     "ABAAABAAABAAABAAABAAABAAABAAABAAABAAABAAABAAABAAABADHBAAABAAABBAABAAABAAABAAABAAABADBUAAAB",
     "AAABAEAAABAACBAAABAAABAAABAAABAAABAAABAAABAAABAAABAAABEAABEAABAAABAAABAAABAAABAAABAAABAAAB",
     "DAABAAABBAABB9AAABA9ABA9ABAAABAAABAAABAAU9CDAAABAEBDABGEAFCEAFDEAFWEBGBFAGDVAFC9FKBVATAVF9",
     "bTEDRH9BGbREPGBFH9BRJIF9RFFECRAEARBEAFJI7EHFBRWEKFBGK9AR8EC9CFAGbOEAFBGDFBGBFCGMRA9ADJID9B",
     "REEAFADIEJIEEA9bIEFFBGBFBGBFI9CEAFHEAFAGB9JIB9DRPEADFECVAEAGAFAGbREAFAECFBEBFEEBFAEAFAEX9B",
     "EADBRKEAGBFBGBRAEBDAGAFJ9FEB9FEB9FEI9GEA9GEA9bKBAUDDIBADBUD9cPBbCEBGAFBGAFBGARAGAFB9JIF9k3",
     "DEL9WED9bQED9b5-7gh-8lNEB9dJEbF9GBL9EBE9AEAFJEASMEA9EEA9AEA9BEA9BEA9dLEQUP9lKEAOANPVb-EB9b",
     "VEG9AV-9LEATCVPFGRANAOARF9PFARBMBLANAOANAOANAOANAOANAOANAOANAOANAOBRANAODRCLCRA9DRAMANAOAN",
     "AOANAOCRASAMCSA9ARATBRD9EEA9eGEB9A6A9CRATCRANAOARASARAMBRJIBRCSBRZAANARAOAUALAUZBANASAOASA",
     "NAOARANAOBRJEADbMEBD+EC9FEB9FEB9FEB9CEC9BTASAUAVBTA9AVDSBVJ9C6BVB9LEA9ZEA9SEA9BEA9OEB9NEbB",
     "9d6EE9CRD9bMKC9IVbUJDKQVBKCVA9MVC9AVbO9bMVAFeB98EC9bQEO9AF6KD9-EDKI9TEAJHEAJE9bFEEFE99EA9A",
     "RbDED9HEAREJbJ9bHAbHBcNEB9JIF9bDAD9bDBD9bHEH9bTEK9ARKAA9OAA9GAA9BAA9KBA9OBA9GBA9BBC9bTEL9j",
     "WEI9VEJ9HEX9FDA9bJDA9IDcE9FEB9AEA9bLEA9BEC9AEB9WEA9ARHKWEBVGK+EH9IKbP9SEA9BEE9EKVEFKC9ARZE",
     "E9ARb-9bXED9BKBEPKB9bNKAECFA9BFE9DFDEA9CEA98EB9CFD9AFIKG9IRG98EBKAR8ECK-9HEAV7EBFD9EKGRI9b",
     "VEC9GRVEB9HKSEE9HKREG9DRL9GKcP9cIEbW9bSAM9bSBG9FKbDEDFH9JIF9JIDEADAEVAC9EFAMADVBH9BSgP9+KA",
     "9bJEA9BFAMB9BEP9CEbW9DF8EJKAEH9VEKFDKERV9REDFDRbF9UEGKT9WEI9AGAFAGbUEOFGRD9TKJIAFBEBFAEI9C",
     "FAGbMECGDFBGBFBRA6DRAFJ9A6B9YEG9JIF9CFbDEEFAGHFA9JIDRAEBGAEH9bCEAFBRAEI9BFAGbPECGIFBGDEDRD",
     "FARAGAFJIAEARAECRA9TKK9REA9YECGCFBGAFAGBFFRAFBEAFb99GEA9AEA9DEA9OEA9JEARF9bOEAFCGHFE9JIF9B",
     "FBGA9HEB9BEB9VEA9GEA9BEA9EEA9BFAEBGAFDGB9BGB9CGB9AEF9AGE9EEBGB9GFC9EFK9JEA9AEB9AEA9bFEA9AE",
     "CGFFA9AGB9AGA9DGA9BGAFAGAFAEAFAEBRA9BRH9BF89bUECGHFBGCFAGAFDEERJIBRA9ARAFCE99bPECGFFAGAFDG",
     "BFAGBFBEARAEH9JIfF9bOECGDFB9DGBFAGBFWRDEBFbB9bPECGHFBGAFAGBFCRAEK9JIF9MRS9bKEAFAGAFBGFFAGA",
     "FAEARF9JIF9TI796EB9AFAGAFBGDFAGEFD9JIBKCRAVGEfY9bLECGIFAGBFARdD9-A-BJIIKL9HEB9AEB9HEA9BEA9",
     "XEFGA9BGB9BFAGAFAEAGAEAGAFCRI9JIcF9HEB9bGECGDFB9BFDGAFAEARAEAG69AEJFbHEFFAGAEDFHRAFH9AEFFB",
     "GCFbNEMFAGBFCRAEERM9cIEG9JRfV9bAEARN9JIF9IEA9bEEAGGFA9FFAGAFAEERJ9JISKC9BR9EB9VFA9AGGFAGBF",
     "AGBFcI9GEA9BEA9bFEFFC9AFA9BFA9GFAEAFH9JIF9FEA9BEA9-EEGA9BFA9BGAFAGAFAEG9JIjV9SEBFBGBRG9BFA",
     "EAGMEA9bBEBGEFC9BGAFAGAFMRJIAFcU9AEO9UKHVDTQVM9AR2ZEdF9dOJA9ERK9gDEcsL9dAEBRM9bbPEP6AFFEOF",
     "J9d26EE9sGEgvY99ELFCGCFJIbwF9rYEG9+EA9JID9BRcOEA9JIF99EB9EFARJ9bPEGFERDVDDARAVJ9JIA9GKA9UE",
     "E9SEnP9CDbHEBDCRJIgF9-A-BWKDRdE9cKED9AFAEbWGG9DFMDb-9BDARADAFK9BGN9f5XEH9bgVEbI9JEixG9DDA9",
     "GDA9BDA9jCEO9AE89CEB9AEN9DEH9mLEciD9dKEE9MEC9IEG9JEB9AVBFARD6d079hPVJIF9nTVcL9bNFB9WFI9dTV",
     "b79hVVJ9bGVB9b7VBGCFCVFGH6HFBVGF9VDFb8VU9cBVCFAVdZ9TKL9TKL9cWVI9YKeG9ZAZBZAGBA9RBZAZBAAA9B",
     "AB9AAB9BAB9DAA9HADBA9ABA9GBA9KBZAZBBAA9DAB9HAA9GAA9ZBBAA9DAA9EAA9AAC9GAA9ZBZAZBZAZBZAZBZAZ",
     "BZAZBZA7BB9YAASYBASFBYAASYBASFBYAASYBASFBYAASYBASFBYAASYBASFBAAABB9bRIp-VbWFDVbRFHVAFNVAFB",
     "VERO9EFA9OFbcP9JBAETBF9FBgU9GFA9QFB9GFA9BFA9EFE9b9DbA9AFdP9bMEC9GFGDB9JID9AEAVj-99EAFQ9bLE",
     "DFJIE9AToP96EADDFJIgV99EBFAEJID9ARo-9GEA9DEA9BEA9OEA9gEEB9IKGFbI9bBAbBBGFADD9JID9BRyQ9b6KA",
     "VCKATDKcL9bMKAVOKgB9DEA96EA9BEA9AEB9AEA9JEA9DEA9AEA9AEF9AED9AEA9AEA9AEA9CEA9BEA9AEB9AEA9AE",
     "A9AEA9AEA9AEA9BEA9AEB9DEA9GEA9DEA9DEA9AEA9JEA9QEE9CEA9EEA9QEbT9BSiN9bLVD9dDVL9OVB9OVA9OVA9",
     "bEVJ9MKfAVbX98VM9bLVD9IVG9BVN9FVeZ9h6VEUwXVD9QVC9MVC9dWVD9c+VF9LVD9AVO9LVD9bXVH9JVF9bHVH99",
     "VB9LVD9BVb99kTVL9NVB9MVC9JVE9bXVG9OVB9KVF9IVG9eSVA9c7VJIbaF9bjw-E-9ebZEF9g9EB9fuBEN9hjQEO9",
     "tNEcnB9q9EbpB9e0KEE9ec-EvxcQ9A699c-6d-9hPFb5qP9b5598B9b5598B9"]

def categoryTable : List (Nat × Nat × Nat) :=
  runs (numbers categoryRuns.toList) 0

def withCategory (codes : List String) : CharSet :=
  let places := codes.map fun code => categoryCodes.idxOf code
  CharSet.ofSorted (categoryTable.filterMap fun (low, high, place) =>
    if places.contains place then some (low, high) else none)

structure CategoryName where
  names : List String
  covers : List String

def category (names : String) (covers : List String) : CategoryName :=
  { names := (names.splitOn " "), covers }

def letters : List String := ["Lu", "Ll", "Lt", "Lm", "Lo"]
def marks : List String := ["Mn", "Mc", "Me"]
def numberCodes : List String := ["Nd", "Nl", "No"]
def punctuation : List String := ["Pc", "Pd", "Ps", "Pe", "Pi", "Pf", "Po"]
def symbols : List String := ["Sm", "Sc", "Sk", "So"]
def separators : List String := ["Zs", "Zl", "Zp"]
def others : List String := ["Cc", "Cf", "Co", "Cn"]

-- Surrogates are no characters, so their category has no set.
def categories : List CategoryName :=
  [category "C Other" others, category "Cc Control cntrl" ["Cc"], category "Cf Format" ["Cf"],
    category "Cn Unassigned" ["Cn"], category "Co Private_Use" ["Co"],
    category "Cs Surrogate" [], category "L Letter" letters,
    category "LC Cased_Letter" ["Lu", "Ll", "Lt"], category "Ll Lowercase_Letter" ["Ll"],
    category "Lm Modifier_Letter" ["Lm"], category "Lo Other_Letter" ["Lo"],
    category "Lt Titlecase_Letter" ["Lt"], category "Lu Uppercase_Letter" ["Lu"],
    category "M Mark Combining_Mark" marks, category "Mc Spacing_Mark" ["Mc"],
    category "Me Enclosing_Mark" ["Me"], category "Mn Nonspacing_Mark" ["Mn"],
    category "N Number" numberCodes, category "Nd Decimal_Number digit" ["Nd"],
    category "Nl Letter_Number" ["Nl"], category "No Other_Number" ["No"],
    category "P Punctuation punct" punctuation, category "Pc Connector_Punctuation" ["Pc"],
    category "Pd Dash_Punctuation" ["Pd"], category "Pe Close_Punctuation" ["Pe"],
    category "Pf Final_Punctuation" ["Pf"], category "Pi Initial_Punctuation" ["Pi"],
    category "Po Other_Punctuation" ["Po"], category "Ps Open_Punctuation" ["Ps"],
    category "S Symbol" symbols, category "Sc Currency_Symbol" ["Sc"],
    category "Sk Modifier_Symbol" ["Sk"], category "Sm Math_Symbol" ["Sm"],
    category "So Other_Symbol" ["So"], category "Z Separator" separators,
    category "Zl Line_Separator" ["Zl"], category "Zp Paragraph_Separator" ["Zp"],
    category "Zs Space_Separator" ["Zs"]]

end FleetSearch.Unicode
