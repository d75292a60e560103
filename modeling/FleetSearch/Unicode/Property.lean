import FleetSearch.Unicode.Code

set_option autoImplicit false

/-!
Properties that a character has or has not, of Unicode 16. Each text lists the ranges of a
property: the gap before a range and its size less one.
-/

namespace FleetSearch.Unicode

namespace Ranges

def pASCIIHexDigit : String :=
  "bQJHF6F"

def pAlphabetic : String :=
  String.join
    ["cBZGZbPAKAEAFWB+BoJELOEHABAcWA9RBBCDBAGABCBABTBcSBeKIfFBbFCAGbIbHNBABBBBBAI6ED9KFbXBGOdFBH",
     "EHECKCCAQbPNdEYbAJBEAFXCSTYHKFXBFIAIbJKLDGGcLBPBCEONSBHCBCVBGBADDDHCBCBBAIAEBBEMBKAECBFEBC",
     "VBGBBBBBBEEEBCBEAHDBARFLCBIBCBVBGBBBEDIBCBBDAPDVDECBHCBCVBGBBBEDHCBCBJBEBBENAQBBFDCBDDBBAB",
     "BDBDCDLEEDCBCDAGAbIMBCBWBPDHBCBCIBBCCACD8DBHBCBWBJBEDHBCBCIBGBBDNCMMBCBbICHBCBCBAFDHEWFBCB",
     "RDXBIBACGIFBABHSBNbZFGGAbTBBABEBXBABSBCCEBAGAODbAAb-HBbDESEPBbDcDbWBACEQb-KDCbFBAFACbKBkMB",
     "DCGBABDCbIBDCbABDCGBABDCOBbYBDCcCbFPQcVCFDtLCQBZFcKDKHTLUMTMMBCBBMbTCSOAEAcDcYHbKFcFK+BLEI",
     "X9CELbLEZbW7Eb+CTbSAXBLCbRbTBOBHbTbJCDKbLBKObWWCKbDCKFbKCCbJDBFBBDAFf-TbBLiVCFCbFCFCHBABAB",
     "AB+CbUBGBADCBGDDCFEMFCBGdUANAQMdFAEACJBADEGABABABDBKCDFEEARbIzNbTbyWhEGDDBMbFBAFACbXHAQWJG",
     "BGBGBGBGBGBGBGB-bPAoVCZIHECEEcVGCBcZBDFbKBc9R-bQPqAgn-cAvuMcDbNCiMDPKBUbOFHDdQbHICdGCcCCBB",
     "ABHVTBbAYbTMcDBAbMFDABCKbAFbCN8DbSBLPAQPKEBbWJNSWDcEBABAYCCPCDLFCFCFJGBGBbKBNGd6Vk3DMWEbQi",
     "iElNCdJbGGMEFLBMBEBABBBBBdLbBlKSb-CbVbILdUEBeGbEZGZLcYDFCFCFCCbDLBZBSBBBOCNbCd6cFbUiL8DbQb",
     "P-N9FbKF9CbDEHBEbKe9SbDEbDEbHIbTMKBOBGBBBKBOBGBBDbTMjWJVKHYFBbJBIcFFCABbLBBDACWKWJ+cBSBBKV",
     "KZcGbXGBcADBBFHBCB8bK8D8bDHB77bVKVKSNRdOcIbXbSNbSNbHbC7DAFWh6bJBBDBQCbXAD8KAIVbKRbOU7WJcFb",
     "LEKbYJANYXbSRDIbCDAJb-BDJBKABAbDRBbBCAGDb+GBABDBOBJHbYXDBHCBCVBGBBBEDHCBCBDAGAFG8JBACABbFB",
     "JBACABDBBDABAbMcBBCBDUC+cBCBBAfYbVCGZFbCb+BADAb7bVCAcH6CNVGfZbYdHb--HCACHBBB9BBCBCDc9HCbNC",
     "FBABB7bSCJRcHFAScIgHbA-IBbMBGBAbR9CVBNcJGBBBbLDABBBCBACBYFBBBbEBBBDBAkHWJQBbIDCdPAcP2ZdGdO",
     "RgDcsMdAPbbPRFZd26FsGgvZbObwRrYH+RcOR9SbPQD-UFSnQbMgTb-eAcKEbYHQcABBAMBOf5XIbgVbJJixHDBGBB",
     "BjCPA9CCAODImLciEdKFMDIHJEAf1BcUBcGBBCACBCDBLBABGBcABDCHBGB7BDBEBADGBkTCYBYB+BYB+BYB+BYB+B",
     "YBHbzU+GFgVGBQCGBBBEFb9bBAdQbMKGQAkB9SbLpE7hE9CApPGBDBBBOBgEb7cDDADAbfUDB6BBBACABJBDBABAGA",
     "EABABABCBBBACABABABABABBBACDBGBDBDBABJBQFCBEBQtUZGZGZdtWbjw-bAebZGg9CfuBOhjQPtNcnCq9bpCe0K",
     "Fec-"]

def pBidiControl : String :=
  "bq8AgpRB6EbXD"

def pBidiMirrored : String :=
  String.join
    ["bIBSABA8ABA9ABAbNAPAdt+Db09Bcm8BKBbWBOBfRAgADDFDADBDDBDBABAEIFABRFDJBBABHB-CDFAJBCSFBJECBE",
     "XCPIDUBHBbb9NcKACDBBBCFDFCDNmTVCFBNIAHFDAEEBBCEEABCCBKFCBMSBDCABACABDFBGCYBLBEDBBCBEbKCHBb",
     "HFABADEFCEADEBAiAAqDDDBBBOBCJbLHnLJCHbtr9FFBfCBSABA8ABA9ABABBBBbv1XAbZAbZAbZAbZA"]

def pCaseIgnorable : String :=
  String.join
    ["bHAGALAbDABAcHAEABAEACBpXf-EBEAJBBAh7GgPAFAbRbMBABBBBBAbMALFKKBAbDAKUQAdFHBJBDbBABA+6c7Kb6",
     "KEACAYXbLCbMAHBFIbJbZbXABAEHEADGKBNAPAb6AEDIAUB6ACBbZAEBEBCCDA+BDALBbZAEEBBEAUBWFBAb6ACABD",
     "IAHBLB+Ab9AMAbSADAbXABCFCBDHBLB9Ab6ACAGAFBUB8BbZBEDIAUB9AcIAHCBAc6ACGLIdCACIJABGcJB7ABABAb",
     "XNBEBBFKBbDJAdGDBFBBCBZBECQDNACBGAPAc+AtAC3SC9B+B+BcABBGIACKDAFAbNEbTAcBBbCAdWCEBJAGCg7BCA",
     "b6ABGBABACHGJCAbHAI+bRDbQABEBAFAbIIMBbADCBBCbYABBDABCb6HCBcAFcSCBMBGEAGADBbSb+NAbCdEn9ABCL",
     "CNCNCNBMEIBKACACEbREBJBANAQMbTbAc2LBdRCd9APAdA-bPAoVAbEDDEFAc9Fc9C1yWAbhCFiOAdCDBJBA8DcQBO",
     "bBcOAXCdHCDBIADAEAZBFAeXB6RNAbGHZKbOCbQACDCBRAVBcCFCBCBMAIAbDALAbTABCCBFBBA7AOBFBBAdEEJCdZ",
     "ACAEAtzQAeTQr9PDAMPbCACAfJAHAGALAbDABAbPAbNBcDAVCqBAhCAeVEbaFFBbJBIsGCBBFDbICEAfFBr9DbGA6E",
     "BAj7BcPDcGKbRDd7AbWObJACBKCbRDCBCAEAKAbSCbEEBHb+AMBbUIKDCAc-CCABBGACAe9ADHVBbZBDAbFGDEcGFN",
     "ABABAOBcVHCCBAXAcUFBAEBBBhODGBBB7BcVHCABBdKABACFBAdFABACDBEiDIBBiABBAEAeQDCBEAbAJbIFCDIAJF",
     "CCbOMBBmWGBFBAcSVCGBBBBd6FDABBBGBAcIBDABAk7BLBbUEFABAXAfgVQGOlgILDCcoAEb7GJDp8CbIBpCAb-QcA",
     "BBBqaLDBGBBde+BBDes8bNCWrACJPCG+DeUCb37bWEbRIAOAWEBObkQGBQCGBBBEFb9bBAfANlQAb9Dp7Eh+BxAGdN",
     "HcvPEydaBA+c-eAhP"]

def pCased : String :=
  String.join
    ["cBZGZbPAKAEAFWB+BgCBDEgPCbCHB+EdAAbKDCBCDBAGABCBABTBcSBeKIfFBbFJbIcyXbFBAFACbKBDvAcVCFceCK",
     "FbKCCcAf-cAiVCFCbFCFCHBABABAB+CbUBGBADCBGDDCFEMFCBGdUANAQMdFAEACJBADEGABABABDBFEACDFEEAR-D",
     "BzRbTbyWhEGDDBMbFBAFA4iSbNS9eEdFDDBb9CBBABHVEBCzVbKBNGcPt0AGMEbaJZGZbfFcPdAbDEbDdUKBOBGBBB",
     "KBOBGBBoDACCBbJBIbgFbSNbSc9VKVcy6b-vlAb-zmAcUBcGBBCACBCDBLBABGBcABDCHBGB7BDBEBADGBkTCYBYB+",
     "BYB+BYB+BYB+BYBHbzUJBTGFiFb9ceScDb5MZGZGZ"]

def pChangesWhenCasefolded : String :=
  String.join
    ["cBZc6AKWBHbAABABABABABABABABABABABABABABABABABABABABABABABABABABABACABABABABABABABABBBABAB",
     "ABABABABABABABABABABABABABABABABABABABABBBABABABBBABBBCCDBBBCDBBBBABABBBACABBBCBABBDAHBBBB",
     "BBABABABABABABABACABABABABABABABABACBBABCBABABABABABABABABABABABABABABABABABABABABABABABAB",
     "ABABABABAHBBBCABDBABABABAhWAbKABADAIAGABCBABBBQBIWAMCDBBABABABABABABABABABABABABBCBBABBCbS",
     "bQABABABABABABABABABABABABABABABABAJABABABABABABABABABABABABABABABABABABABABABABABABABABAB",
     "BBABABABABABACABABABABABABABABABABABABABABABABABABABABABABABABABABABABABABABABABABABABABAB",
     "ABABABABABABABABABACbFbQAcyYbFBAFAzKFceCJGbKCCkAABABABABABABABABABABABABABABABABABABABABAB",
     "ABABABABABABABABABABABABABABABABABABABABABABABABABABABABABABABABABABABABABABABABABABABABAB",
     "ABABABABABABABABAFBCABABABABABABABABABABABABABABABABABABABABABABABABABABABABABABABABABABAB",
     "ABABABABABABABABABABABABABAJHIFKHIHIFLABABABAIHQbPCCCFFCCFLDMEFCCFjJADBGAbNPTAzSZbzQbPbQAB",
     "CCABABABDBACAICBABABABABABABABABABABABABABABABABABABABABABABABABABABABABABABABABABABABABAB",
     "ABABABABABABABABABABABAIABAEA4kNABABABABABABABABABABABABABABABABABABABABABABATABABABABABAB",
     "ABABABABABABABAeHABABABABABABADABABABABABABABABABABABABABABABABABABABABABABABABABABABABABA",
     "BAKABABBBABABABAEABACABADABABABABABABABABABABEBEBABABABABABABABDBABBDAFABABABAYA16cPt0AGME",
     "baJZbgFbHeIbDe8KBOBGBBbxKbSe9Vcz6-vmA-4vAbB"]

def pChangesWhenCasemapped : String :=
  String.join
    ["cBZGZb6AKWB+Bb-BcTB7CNCBBAEc8BRG6BBBABBDBBDBECABBCAHACABBDFFAKBfGAbKDCBDCBAGABCBABTBbODbAB",
     "EBeEIfFBbFKbGcyYbFBAFACbKCCvAcVCFceCKFbKCCfZADAQAdRe7CABdVCFCbFCFCHBABABAB+CbUBGBADCBGDDCF",
     "EMFCBGjJADBGA7AR-DBzRbTbyWdQBBBBHdFHDDBMbFBAFA4iSbNS7eGNCb9JODCCEBYB9CBBABHYB08A8cPt0AGMEb",
     "aJZGZbfFcPdAbDEbDdUKBOBGBBBKBOBGBBbwDbSNbSc9VKVcy6b-vlAb-4uAcD"]

def pChangesWhenLowercased : String :=
  String.join
    ["cBZdFWBGbBABABABABABABABABABABABABABABABABABABABABABABABABABABABACABABABABABABABACABABABAB",
     "ABABABABABABABABABABABABABABABABABABABBBABADBBABBBCCDBBBCDBBBBABABBBACABBBCBABBDAHBBBBBBAB",
     "ABABABABABABACABABABABABABABABACBBABCBABABABABABABABABABABABABABABABABABABABABABABABABABAB",
     "ABABAHBBBCABDBABABABAjBABADAIAGABCBABBBQBIbDAIABABABABABABABABABABABAFACABBCbSbQABABABABAB",
     "ABABABABABABABABABABABAJABABABABABABABABABABABABABABABABABABABABABABABABABABABBBABABABABAB",
     "ACABABABABABABABABABABABABABABABABABABABABABABABABABABABABABABABABABABABABABABABABABABABAB",
     "ABABABACbFc0JbFBAFAwScVceTAGbKCCkAABABABABABABABABABABABABABABABABABABABABABABABABABABABAB",
     "ABABABABABABABABABABABABABABABABABABABABABABABABABABABABABABABABABABABABABABABABABABABABAB",
     "ABAJABABABABABABABABABABABABABABABABABABABABABABABABABABABABABABABABABABABABABABABABABABAB",
     "ABABABABABAJHIFKHIHIFLABABABAIHYHIHIHIELELDMELEjJADBGAbNPTAzSZbzQbPbQABCCABABABDBACAICBABA",
     "BABABABABABABABABABABABABABABABABABABABABABABABABABABABABABABABABABABABABABABABABABABABABA",
     "BABAIABAEA4kNABABABABABABABABABABABABABABABABABABABABABABATABABABABABABABABABABABABABAeHAB",
     "ABABABABABADABABABABABABABABABABABABABABABABABABABABABABABABABABABABABABAKABABBBABABABAEAB",
     "ACABADABABABABABABABABABABEBEBABABABABABABABDBABBDAFABABABAYAvzLZbgFbHeIbDe8KBOBGBBbxKbSe9",
     "Vcz6-vmA-4vAbB"]

def pChangesWhenTitlecased : String :=
  String.join
    ["dBZb6AbJXBHBABABABABABABABABABABABABABABABABABABABABABABABABABABABACABABABABABABABBBABABAB",
     "ABABABABABABABABABABABABABABABABABABABACABABCCABACADAFACADCCACABABACAEACADABACADABAEABBBBB",
     "ABABABABABABABABBBABABABABABABABABCBABADABABABABABABABABABABABABABABABABABABABADABABABABAB",
     "ABABABAIACBBAEABABABABFBBBABBDBBDBECABBCAHACABBDFFAKBfGAbLABADADCSA7bCBBDCBABABABABABABABA",
     "BABABABEBACACAbUbPBABABABABABABABABABABABABABABABABAJABABABABABABABABABABABABABABABABABABA",
     "BABABABABABABABACABABABABABABBBABABABABABABABABABABABABABABABABABABABABABABABABABABABABABA",
     "BABABABABABABABABABABABABABABABABABAbRbGdtQFceCIBAhOADAQAdSABABABABABABABABABABABABABABABA",
     "BABABABABABABABABABABABABABABABABABABABABABABABABABABABABABABABABABABABABABABABABABABABABA",
     "BABABABABABABABABABABABABABGFABABABABABABABABABABABABABABABABABABABABABABABABABABABABABABA",
     "BABABABABABABABABABABABABABABABABIIFKHIHIFKHIHINCHIHIHIEBBGADCBBIDCBIHKCBBkWAbBPEA0LZb0GbP",
     "BADBBABABAGACAKABABABABABABABABABABABABABABABABABABABABABABABABABABABABABABABABABABABABABA",
     "BABABABABABABABABABABABAIABAEAMbFBAFA4iTABABABABABABABABABABABABABABABABABABABABABABATABAB",
     "ABABABABABABABABABABABAeHABABABABABABADABABABABABABABABABABABABABABABABABABABABABABABABABA",
     "BABABABABAKABACABABABABAEAEABBCABABABABABABABABABALABABABABABABABAEABACADABABABABABA6A08A8",
     "cPt0AGMEbbJZbgNbHeIbDe7KBOBGBBbyDbSd9Vcz6-vmA-4vCbB"]

def pChangesWhenUppercased : String :=
  String.join
    ["dBZb6AbJXBHBABABABABABABABABABABABABABABABABABABABABABABABABABABABACABABABABABABABBBABABAB",
     "ABABABABABABABABABABABABABABABABABABABACABABCCABACADAFACADCCACABABACAEACADABACADABAFBBBBBB",
     "ABABABABABABABBBABABABABABABABABBBBBADABABABABABABABABABABABABABABABABABABABADABABABABABAB",
     "ABABAIACBBAEABABABABFBBBABBDBBDBECABBCAHACABBDFFAKBfGAbLABADADCSA7bCBBDCBABABABABABABABABA",
     "BABABEBACACAbUbPBABABABABABABABABABABABABABABABABAJABABABABABABABABABABABABABABABABABABABA",
     "BABABABABABABACABABABABABABBBABABABABABABABABABABABABABABABABABABABABABABABABABABABABABABA",
     "BABABABABABABABABABABABABABABABABAbRbGc0IbKCCxYFceCIBAhOADAQAdSABABABABABABABABABABABABABA",
     "BABABABABABABABABABABABABABABABABABABABABABABABABABABABABABABABABABABABABABABABABABABABABA",
     "BABABABABABABABABABABABABABABABGFABABABABABABABABABABABABABABABABABABABABABABABABABABABABA",
     "BABABABABABABABABABABABABABABABABABABIIFKHIHIFKHIHINCbUBBEABADCBBEADDCBIHKCBBEAkRAbBPEA0LZ",
     "b0GbPBADBBABABAGACAKABABABABABABABABABABABABABABABABABABABABABABABABABABABABABABABABABABAB",
     "ABABABABABABABABABABABABABABAIABAEAMbFBAFA4iTABABABABABABABABABABABABABABABABABABABABABABA",
     "TABABABABABABABABABABABABABAeHABABABABABABADABABABABABABABABABABABABABABABABABABABABABABAB",
     "ABABABABABABABAKABACABABABABAEAEABBCABABABABABABABABABALABABABABABABABAEABACADABABABABABA6",
     "A08A8cPt0AGMEbbJZbgNbHeIbDe7KBOBGBBbyDbSd9Vcz6-vmA-4vCbB"]

def pDash : String :=
  "bNAbk8AbTAdsBAbaFAcaJFb9AbHAPAmGAdaEACA-BEA8An+ATAdPAbtmQBbFAKAfJAdtAAj+A"

def pDefaultIgnorableCodePoint : String :=
  "fNAvBAwMAc0CBbsTBcVEb57E6EbRPehUAbte7PhPAfAAcPIbpfHDfgPHyluFd5-"

def pDeprecated : String :=
  "kJAbjJAciDABAcbJBcgFFvZB1xgWA"

def pDiacritic : String :=
  String.join
    ["c+ABAcHAGAEACBpXe+BHFFRBEAJBh9EgRAbXbMBABBBBBAeDHEBeGBEBDCcD6c7Kb6KbCBd+HbJJQ7b9AQADD8AcKA",
     "QAdOAQAdOAQAbPCb8AQAHAdXAdOAQAdOAQAdNBQAd8AdPAMFBAdLANEcLB7ABABAEBcCCBBb+AdQABBbIBEEZGBAKB",
     "wBC3UB+AeUKJAk7CjEAUHCAbQOCKdIAPAbGIbWBb6ALBcCBcAFcSYEAGACCbSb+bQbDFLbFKn9ABCLCNCNCNBdhQCj",
     "9Ap6FdJDc-A3lSAMBBA8BcSBObBdGCdNBMAbFAeXA7RbZDbEAc-AMAbEAeVCcBDbTAdEEJCeABtzQAyBPiOABAbPAb",
     "NBcDAx8Abe-FBbJBIt9CEAfFBr7FbGA6EmPCcGKbRDgAAbJAcIBdYBb+AcMAJCdIBfSBcQBQAYGDEcZCBBNBc-ADAd",
     "7Bh7Bd+AdWBdTAiNBiCBEAe8AcTASAcRAnFAiCABBcRAnJBXAfhMOlgZAcoAEb7GrUBrCQcQBp5+DBGBBhyBbNCWrA",
     "CDFIHCG+DduCb9gCGlXAb9Dx+BxAGdNCBC"]

def pEmoji : String :=
  String.join
    ["bDAGAFJdPAEAh2NAMAgYAWAc6FPBlPBMAfGAZKECgHAhHBKAJAb6DBEJACACBCAEACABBCADADBICFABAFLLBCABBB",
     "ASACBSFBABBDBFACBEBLBFBCAFBBABBUBFFBDCAEACACFBACABABAGADAGAKBPACAEABAECBALBbQCJAOAOAlUBoPC",
     "TBbTAEAbg6AMAsZABAdplKAgKAfABMBOACJcLZBBXAUACIVBfObBCdPCBBCCcSCCBiGBb+LFBXHBCHMACDCAEBNBCA",
     "IBJAFCMCICCABAEAGADAGcVbQcFFHCDDJDABBDACJhDLEAi7bOBJBfYdQMDKDbYBAEPCLEJ"]

def pEmojiComponent : String :=
  "bDAGAFJh4TAgVAbxjLAb24WZp7EbnQDybtMc-"

def pEmojiModifier : String :=
  "d257E"

def pEmojiModifierBase : String :=
  String.join
    ["jq9Ag7AQDdtdXAb8CCACCdVBCKVSDAECBCHABAYAgJBEAVAEBfOCDEcTAQCJALAr-ACAIHGAJJCCbYAb9BBBBARCBM",
     "hFCbKI"]

def pEmojiPresentation : String :=
  String.join
    ["iy6BgNDDACAqJBVBbSLbLATANAIBRBFBIAFAVAHBBAEACAHAEB8AbDABAECBAb9CYAOA07BbTAEAdrfOAgKAf+ACJc",
     "LZBAYAUACEBCVBfObAMIBcFBVMbKEEMQDADcGBABf6Cb+NDBXSA6BNAcWcUbQcFGADCCDDDLBHIhDLEAi7bOBJBfYd",
     "QMDKDbYBAEPCLEJ"]

def pExtendedPictographic : String :=
  String.join
    ["fJAEAh2NAMAgYAWAc6FPBlPBMAfGAZKECgHAhHBKAJAb6DBEJACACBCAEACABBCADADBICFABAFLLBCABBBASACBSF",
     "BABBDBFACBEBLBFBCAFBBABBUBFFBDCAEACACFBACABABAGADAGAKBPACAEABAECBALBbQCJAOAOAlUBoPCTBbTAEA",
     "bg6AMAsZABAdplKAbHDdELPBPAOBbFJdQBMBOACJTbX7OKAUACIBDJWGf7CdPCBBCCcSCCBDFh9Bb+LFBXHBCHMACD",
     "CAEBNBCAIBJAFCMCICCABAEAGADAGcVbQcFFHCQDABFCMg6bFMDbYHKFbIH+BMDCNJbGMbOBJBfYcYHOeRiA59"]

def pExtender : String :=
  String.join
    ["fXAqYB1OAnZAtWAeJAcZAxQAd-AckDAbYAtDAmOAcEAe2JAbLEdHBc9C1yWAbpWA4CAWAeJAdMAVBvd7AcaQBboLA7",
     "AEAbgHAjFAdUBpSCbgPAufJBbe8BBA2kYBbfRA0UC"]

def pGraphemeBase : String :=
  String.join
    ["bAc+bBMBsRdQHCFEGBABTBg-HfFBbFCbRCCbOABACACAJ6EFRJLABbNVPBdEIAGBCAE-CAB99cYLAObKJGDXEAJADA",
     "HOBYFABKF+RbJbZbWBABDIDBCHJC8BBBHCBCVBGBADDDABBGBCBBANBBCEXFABFEBCVBGBBBBBBECYDBAHJCCBAMAB",
     "IBCBVBGBBBEDDIABBDAPBELHAIBBHCBCVBGBBBEDACAGBCBPBBCERLABFDCBDDBBABBDBDCDLFABBDCBCDAVUGCBHB",
     "CBWBPDADDTCCACBEJHJBKBCBWBJBEDBCABBYBBBEJBCOKBCBbICABBFCBCBBECBJEZCBBRDXBIBACGJBGGHJCCMbPB",
     "BLHIMbFBBABEBXBABJBBJACEBAJJCDbAXC6BABABNBbDSAFACEbRHBFBMbFbMEAGACBCYCDDPEMBBCFBOBbHBAFACl",
     "YBDCGBABDCbIBDCbABDCGBABDCOBbYBDCcCF8DZGcVCFCu8DcYHRNSDBJROMBCPbTCAHHBBLIDJGJGKFJGcYHECbBB",
     "AFcFK+EDCCEBBFHADbJCELbLEZGKDbYCBDbXBAJABBIFNJGJGNcWbPKDDHB8JLC-EBGbXBACCBANbPIBFODb9FbKCK",
     "LANAHDBFBCCAFf-cAiVCFCbFCFCHBABABAB+CbUBOBNCFBSCCBIBKFXHbQQBC6BMDbAb-eLEuZWKVbyTC-BkXDBFbM",
     "BAFACbXHBPWJGBGBGBGBGBGBGBGbBc9bCZBcYMgV6bZGPBcVEdEFbKBc9BcVJbPB2tMDbWJk7UbOEAK-CcPCFIgNCB",
     "BABHVPBCBDBYCEEJGbXIcDKLYMBbFIYLAM9GbPBBEBCBBMBKEGBYBbIGBCBLCBHBACJC-BbSBADBCECABAYQCHLFCF",
     "CFJGBGBb7EdUBBBDDJGk3DMWEbQiiElNCdJbGGMEFABXBEBABBBBBd8Qn8CbVHAbAPQJWbCBSBDEEBeGEe8C+DFCFC",
     "FCCDGBGNBCLBZBSBBBOCNbCd6FCEbMDcXBMDAbPbMeD8DbQQ6EbDJ9FbFK9BbEENbKe9CJGbDEbDEbHIbTLLBOBGBB",
     "BKBOBGBBDbTMjWJVKHYFBbJBIcFFCABbLBBDACWBcHIIbQSBBFbAD6FAcAbXETCbOPDBCB8KIHIHb-bAbEGLJbVD8C",
     "6FZHDMGcQcIbXbSNbSHbJMJGbFIXIBgQ+BbJDACBQCb7bHIVLIWREDbG7UWJABbVPGE9BBCAMbQEBCBBDOYHJJbDFA",
     "JRIbCBCLbTJABHEBBPBTLRB7DBEFBBb-GBABDBOBKGbOBCNJIBBHCBCVBGBBBEDABABDCBCBDAMG8JBACABbFBABBP",
     "ABBDABCBBbHbXIBDABUBABC+bPBBGABBBACACDIJfGbOBBGDCAC6bEbSIBBACDLJGMTbKBABBIBGJGT86DABBEAJWf",
     "ZbOJACAdEcSMHCACHBBBXBEBBGDBCJJcGHCbJIDBD7AKbHGBEHJAGBDbNNACINcIHJfWbBOJGIBbFOABFK8D-ZAHAC",
     "AcLGBBBbFVAJJGFBBBbEEBBABAHJjWSCDJOBbDIBDWcWAPbRN26dGdOBELgDcsMdCNbbPRFZd26FsGgvZ9MCDJbwGr",
     "YH+BJEcQBJG9HAKbPHOKJBGBUFSnQbZgGc6dFcKFbXLMcAD8f5XIbgVbJJixHDBGBBBjCPA9CCAODImLciEdKFMDIH",
     "JCACAd1AhZGnTe8dTb8hVKbGCb7FCWBH9Eb8VcBDAd6TMTMcWJYeHcUBcGBBCACBCDBLBABGBcABDCHBGB7BDBEBAD",
     "GBkTCjDCrRbXDbSHBNBGbdU+GFiFb9eSbMKGCJEBkA9SbLEJFAoQ7EJgW9CKEApAGBDBBBOBgECIbQcDHAEJEByRcD",
     "cMb8gCDB6BBBACABJBDBABAGAEABABABCBBBACABABABABABBBACDBGBDBDBABJBQFCBEBQbUBiObLEdDMOCOBOBbE",
     "KfNbY8NbLEIHBOFe64XEQDMDdWEc+GLEAPLEbXIJGbHI9CLEBb+kTMNCMDJFbXHOCKGIHeSBdFbaGbjw-bAebZGg9C",
     "fuBOhjQPtNcnCq9bpCe0KFec-"]

def pGraphemeExtend : String :=
  String.join
    ["yAdPiTGiHbMBABBBBBAcIKbQUQAdFGCFCBBDbDA+6c7Kb6IJAYDBIBCBEbLCb7IbKXB-bXABAEHEADGKB9Ab6ABACD",
     "IAJAKB6ACBbZAEBEBCCDA+BDALBbZAEEBBEAUBWFBAb6ABBBDIAHCKB+Ab7ABAMAJAbIADAbXABCFCBDHBLB9Ab6AC",
     "BBADCBDHBLB8BbZBBACDIAJAKB9AcIAEACCBAIAcRACGMHdCACILGcJB7ABABAbXNBEBBFKBbDJAdGDBFBBCBZBECQ",
     "DNACBGAPAv-C3SD8C9B+BcABBGIACKJAbNCBAdVBbCAdWCEBJAGCg7BCAb6ABGBABACHGJCAbQ+bRDbQJECbGIMBbA",
     "DCFbYABBDABEbYHCBeYCBMBGEAGADBgGb-qMAgDbAc5+CeNAdA-rKFdJB3oUDBJbABcQBiQADAEAZBFAeXB6RNAbGH",
     "ZKBAbMCbQACDCBCAbEAcDFCBCBMAIAbPAbTABCCBFBBAbKBIAhOACAEAtzQAxBPQPlOBs9AhCAeVEbuGCBBFDbICEA",
     "fFBr9DcBEj9BcPDcGKbRDd7AbWObJACBKCbRDCBHAb9CbEEBHb+AMBbUIBAIDCAc-CCDGACAe9ADHVBbZBBABAMAJA",
     "OGDEcDACFBACABCECBAOBcVHCCBAXAcRACFBACABBBBhLACDGBBB7BcVHCABBdKABACHdFABACDBEiDIBBhVAKDEAe",
     "QDCBEAbAJbIFCDIAJFCCbOMBBmWGBFBAcSVCGBBBBd6FDABBBGBAcIBDABAk7BLBbUEFCXAfhFAGOlgILDCcoAEb7G",
     "baYAb-DcRALBtfLBetBbNCWq+EDFIHCG+DeUCb37bWEbRIAOAWEBObkQGBQCGBBBEdEAfAGlXAb9Dp8Dh+BxAGdNGy",
     "fwVc-eAhP"]

def pGraphemeLink : String :=
  String.join
    ["ckNAd-Ad-Ad-Ad-Ad-Ad-Ad-AdNBQAd8AdPAd-AgJAfUBbwZB+Ae9AuNAhDAdFBcGBemLA4uGAbFAeXAeOAdMAjVAh",
     "WAxsRAbqGAbJAOAbZAdZBeLAdUAfUAdCAhUAd-Ah8Ad-AdWAdUAiNAiDBfBAcTASAcRAnFAiEBcRAnJB"]

def pHexDigit : String :=
  "bQJHF6Fb5vJJHF6F"

def pHyphen : String :=
  "bNAd-Abg8Aet7AcaJBdqFAxDAbtlHAfJAcXA"

def pIDSBinaryOperator : String :=
  "l5QBCJpRA"

def pIDSTrinaryOperator : String :=
  "l5SB"

def pIDSUnaryOperator : String :=
  "l5+B"

def pIDCompatMathContinue : String :=
  "fSBFAh3WADKBOlTAEAWAdnfCAZA-AZA-AZA-AZA-AZA"

def pIDCompatMathStart : String :=
  "iqCAEAWAdnfCAZA-AZA-AZA-AZA-AZA"

def pIDContinue : String :=
  String.join
    ["bQJHZEABZbPAKABACAFWB+BoJELOEHABARdUBBCDBAGEBABTBcSBeKBECfFBbFCAGbIIbMBABBBBBAI6ED9KFcJEdF",
     "BHCJBSCAQb6CdEObVEACACbNS7EKFXBFIcKBeACJBSBHCBCVBGBADDCICBCDIAEBBECLKABACCBFEBCVBGBBBBBBCA",
     "BEEBCCDAHDBAHPLCBIBCBVBGBBBECJBCBCCAPDCJJGBCBHCBCVBGBBBECICBCCHCEBBECJBAQBBFDCBDDBBABBDBDC",
     "DLEEDCBDCAGAOJQMBCBWBPCIBCBDHBBCCACDCJQDBHBCBWBJBECIBCBDHBGBBDCJBCMMBCBbSBCBEFDHECJKFBCBRD",
     "XBIBACGDAEFBABHGJCBNbZFOBJbHBBABEBXBABWCEBABGBJCDbAAXBGJLABABAEJBbDETBRBbDJAbZcJGcNCbFBAFA",
     "CbKBkMBDCGBABDCbIBDCbABDCGBABDCOBbYBDCcCCCJIOPQcVCFDtLCQBZFcKDKHVJVLTMMBCBBMcTDAEBCJbBCBKG",
     "cYHbKFcFK+BLELKbHCELbLEZGKbF7Eb+B8CKGJNAINBPbRcMDJRIMdTMbXIJDbQCKFbKCCQCBbGFqVCFCbFCFCHBAB",
     "ABAB+CbUBGBADCBGDDCFEMFCBGPBbRBTA8ANAQMbTMEADLRAEACJBACFGABABABPCDFEEARbIctXhEGIMbFBAFACbX",
     "HAPXJGBGBGBGBGBGBGBGB-qFCZOBECEEcVCGBc+FbKBc9R-bQPqAgn-cAvuMcDbNCiMD7UbPEJBdSbFICdGCcCCBBA",
     "BHVbVEATbTMcFKJGXDABbQCbDM8DcAOKG+BbWJNCJGWDcIYCCPCEKFCFCFJGBGBbKBNGd6BBCJGk3DMWEbQiiElNCd",
     "JbGGMEFLBMBEBABBBBBdLbBlKSb-CbVbILEPQPDBYCbAEBeGTJHZEABZKcZDFCFCFCCbDLBZBSBBBOCNbCd6cFbUeI",
     "AeC8DbQPA--N9FbKF9CbDEHBEbKe9CJGbDEbDEbHIbTMKBOBGBBBKBOBGBBDbTMjWJVKHYFBbJBIcFFCABbLBBDACW",
     "KWJ+cBSBBKVKZcGbXGBcADBBFHBCB8CCEAbA8D8bDHB9ZbVKVKSNRdOcIbXbSNbSNbHIJGbFDEBWh6bJBBDBQCbXbA",
     "KAIbA-VbKU7WJcG-PJb7HANYHJGbUBJEDIbDCAJcEEDBMBAbDRBbEGDb+GBABDBOBJHb6FJGDBHCBCVBGBBBEBJCBC",
     "CCAGAFGCGDELJBACABbFBJBACABDBHNB9cKFJED+cFBAIJfGbVCIXFbCcADALJbGbYHJGT86COEJGGfZb6dFcJVHCA",
     "CHBBB9BBCIMJcGHCbNCHBB7b+IAIcJDAScIgHbAPJGIBbMBIPJY9CVBNcJGBBBbLDABBBIIJGFBBBbEBBBFHJjWWJQ",
     "BbIDENKcVAcP2ZdGdORgDcsMdAPbbPQVKd26FsGgvZbZbwGrYH+BJGcOBJG9CELbWJDMJJUFSnQbMDJgGb-eAcKEbY",
     "HQcABBBLBOf5XIbgVbJJixHDBGBBBjCPA9CCAODImLciEdKFMDIHJDBecRJqGbNCWq+EDFIHCG+DeUCn7cUBcGBBCA",
     "CBCDBLBABGBcABDCHBGB7BDBEBADGBkTCYBYB+BYB+BYB+BYB+BYBHCbRqAbWEbRIAOAWEBObcQ+GFgVGBQCGBBBEF",
     "b9bBAdQbMDNCJEAkB+RbZoWbJgWbKpFGBDBBBOBgELGbJcLEJbfGDB6BBBACABJBDBABAGAEABABABCBBBACABABAB",
     "ABABBBACDBGBDBDBABJBQFCBEBQdjUJbaGbjw-bAebZGg9CfuBOhjQPtNcnCq9bpCe0KFec-vxkQhP"]

def pIDStart : String :=
  String.join
    ["cBZGZbPAKAEAFWB+BoJELOEHABAeBEBBCDBAGABCBABTBcSBeKIfFBbFCAGbIcH6EDbNbKbDBBdCBAPBHBKCCAQAB9",
     "9cYLAYbAJBEAFVEAJADAXYHKFXBFRbJb6bVDASAHJPPEHCBCVBGBADDDAQANBBCOBKAIFEBCVBGBBBBBB-DBATCQIB",
     "CBVBGBBBEDASAPBXALHCBCVBGBBBEDA+BBCPARABFDCBDDBBABBDBDCDLWAbUHBCBWBPDA6CCACB+AEHBCBWBJBEDA",
     "-BBBPBRIBCBbICAQAFCICYFFRDXBIBACGb6bPBBMGb6BBABEBXBABJBBJACEBAVDbAAb-HBbD7EdTbKUAQFEDDADBH",
     "CEMMARbFBAFACbKBkMBDCGBABDCbIBDCbABDCGBABDCOBbYBDCcCbFPQcVCFDtLCQBZFcKDKHRNSOROMBCPbTbDAEA",
     "cDcYHbIBAFcFK+bR9CELbLEZbWWJbUcSAc9bORHbW9NBKbL6bDbJCKbDCKFbKCCbJDBFBBDAFf-cAiVCFCbFCFCHBA",
     "BABAB+CbUBGBADCBGDDCFEMFCBGdUANAQMdFAEACJBACFGABABABPCDFEEARbIctXhEGDDBMbFBAFACbXHAQWJGBGB",
     "GBGBGBGBGBGrGCZIHECEEcVEEBcZBDFbKBc9R-bQPqAgn-cAvuMcDbNCiMDPKBUbOQ+CcPbHICdGCcCCBBABHVPBCB",
     "DBW9bTObRb+FDABBL7KWZ8HbO8AQEBJKEBbIXCBHUWDADbRBADBCECABAYCCKHCMFCFCFJGBGBbKBNGdS9k3DMWEbQ",
     "iiElNCdJbGGMEFABJBMBEBABBBBBdLbBlKSb-CbVbILdUEBeGbEZGZLcYDFCFCFCCbDLBZBSBBBOCNbCd6cFbUiL8D",
     "bQbP-N9FbFK9CbDEHBEbKe9SbDEbDEbHIbTMKBOBGBBBKBOBGBBDbTMjWJVKHYFBbJBIcFFCABbLBBDACWKWJ+cBSB",
     "BKVKZcGbXGBcAAPDBCB8bK8D8bDHB77bVKVKSNRdOcIbXbSNbSNbDbG7JWh6bJGBQCb78KAIVbKRbOU7WMbUbZBCAN",
     "bMbAY6bD9ACAIbCDAMbPODVABAbDRBYTBb-GBABDBOBJHbObGHCBCVBGBBBEDASAME+JBACABbFBAZABAbMbUSDUC+",
     "bPUBBAfYbObJDbEbPUAb7bKNAcH6bFGfZbLdUb--HCACHBBBXPABAc+HCbGQABA8AKbHHAVALbNTAScIgHbA-IBbER",
     "AbR9dQGBBBbFVAZFBBB-OAkHSPABMBbBd8AcP2ZdGdORgDcsMdAPbbPRFZd26FsGgvZ9bxCrYH+RcOR9SbPQD-UFSn",
     "QbMgTb-eAcKFAcCMcABBA8f5XIbgVbJJixHDBGBBBjCPA9CCAODImLciEdKFMDIHJf1GcUBcGBBCACBCDBLBABGBcA",
     "BDCHBGB7BDBEBADGBkTCYBYB+BYB+BYB+BYB+BYBHbzU+GFiFb9eSbMKGQAkB9SbLpE7hE9CApPGBDBBBOBgEb7cDH",
     "AbfUDB6BBBACABJBDBABAGAEABABABCBBBACABABABABABBBACDBGBDBDBABJBQFCBEBQekEbjw-bAebZGg9CfuBOh",
     "jQPtNcnCq9bpCe0KFec-"]

def pIdeographic : String :=
  "maGBZIOC4Fgn-cAup-wiAlNCdJ3iKA7f5XIbgVbJJjdHmLtiEbjw-bAebZGg9CfuBOhjQPtNcnCq9bpCe0KFec-"

def pJoinControl : String :=
  "iaMB"

def pLogicalOrderException : String :=
  "dsAEd7EcxQCCAbeh6BCABB"

def pLowercase : String :=
  String.join
    ["dBZbPAKAEAbEXBHBABABABABABABABABABABABABABABABABABABABABABABABABABABABBBABABABABABABABBBAB",
     "ABABABABABABABABABABABABABABABABABABABABABACABABCCABACADBEACADCCACABABACABBBACADABACBCCGAC",
     "ACABABABABABABABABBBABABABABABABABABBCABADABABABABABABABABABABABABABABABABABABABABABABABAB",
     "ABABABABABGCACBBAEABABABABcECbCHB+EdAAbLABADACDSA7bCBBDCBABABABABABABABABABABABEBACACBbTbP",
     "BABABABABABABABABABABABABABABABABAJABABABABABABABABABABABABABABABABABABABABABABABABABABACA",
     "BABABABABABBBABABABABABABABABABABABABABABABABABABABABABABABABABABABABABABABABABABABABABABA",
     "BABABABABABABABABAbQbIc0HbKBDxYFceCIBAdVf-cBABABABABABABABABABABABABABABABABABABABABABABAB",
     "ABABABABABABABABABABABABABABABABABABABABABABABABABABABABABABABABABABABABABABABABABABABABAB",
     "ABABABABABABIBABABABABABABABABABABABABABABABABABABABABABABABABABABABABABABABABABABABABABAB",
     "ABABABABABABABABABABIIFKHIHIFKHIHINCHIHIHIEBBGADCBBIDCBIHKCBBdZANAQMdNADBDA7AEAEACBIDEAbBP",
     "EA0LZb0GbPBADBBABABAEABBBHDABABABABABABABABABABABABABABABABABABABABABABABABABABABABABABABA",
     "BABABABABABABABABABABABABABABABABABBHABAEAMbFBAFA4iTABABABABABABABABABABABABABABABABABABAB",
     "ABABABATABABABABABABABABABABABABABCeFABABABABABABCBABABABABABABABABABABABABABABABABABABABA",
     "BABABABABABABABABABABJBABACABABABABAEABACABCBABABABABABABABABABAFAFABABABABABABABAEABACADA",
     "BABABABABAWCBABCzVbKBNGcPt0AGMEbbJZbgNbHeIbDe7KBOBGBBoDACCBbJBIbiFbSd9Vcz6-vmA-zm6Z6GBR6Z6",
     "DBABGBK6Z6Z6Z6Z6Z6Z6Z6Z678YBF6YBF6YBF6YBF6YBFBAbzUJBTGFiFb9cfUbB"]

def pMath : String :=
  String.join
    ["bLAQC-A9ABAbNAEAbFA-AwYCCA6BCCqPCgqNA7CLADANAODVELEcBMEADBEESAEACJBACFGADBCBBCBFDNBAcEXBFB",
     "BEBE-BAGBOiLIDUBc6A+6BAYALGn9BMJEFEBCBDEOABACFLHFBbZABA9DJCkQb-iAp-bQUCFbt48AzXFBAfCAQC9AB",
     "A9ABAeDAGDdnBBbrtQcUBcGBBCACBCDBLBABGBcABDCHBGB7BDBEBADGBkTCjDCbRfqADB6BBBACABJBDBABAGAEAB",
     "ABABCBBBACABABABABABBBACDBGBDBDBABJBQFCBEBQbUB"]

def pModifierCombiningMark : String :=
  "bsUBCAeDAGADBpBBBCDA-A"

def pNoncharacterCodePoint : String :=
  "b5oQ-qOBb55+Bb55+Bb55+Bb55+Bb55+Bb55+Bb55+Bb55+Bb55+Bb55+Bb55+Bb55+Bb55+Bb55+Bb55+Bb55+B"

def pOtherAlphabetic : String :=
  String.join
    ["1DMsANBABBBBBAcIKbQMBGQAdFGEDCBEAbDA+PdGKdFBDIBCBDdKAb8LDGGTbWBCOBBFCKB9Cb6GCBCBKAKB9Cb6EE",
     "BCBEA+BDALCb6HBCBBVBWCECb6GCBCBJBKB+Ab7EDCBCKAbIEbZGBCBCIBLB9Cb6GBCBCIBLBPAMDb6GBCBCKAKB9C",
     "cLFBABHSBb9ACGSAdDACFBBQAfDSJKBbDdOLBACDXDECBCCGDDNLBAKDbtUB+B+B+BcCSf8BbCAdWLEIg+EbZJCTcK",
     "BLCbREbQOb8C+ICBbZKbSSm8bBd5L-4dUHbCBlCAIAXEcYBbSPBAbZAbGE8LbNDbQLbFAcDNMAIBbNCbSABCCBFAbM",
     "EFAhNHtzTAccXEbuGCBBFDyUDcBAkBBcPAiDCbVNbNBLCbNIJAb9CbELSBbZCbQMOBc8ICAGACAe9JXDb6GCBCBKAK",
     "BcUIBACABDBBdHMBCdKRhNGCG9BcSOBAdKKdHNiBMhXFBBCBDABAeOGCFEA8JbKEBDSKbONmXHBGcTVBNd6FDABBBC",
     "BADAcCEBBBDk8DJBBAbQGDCqo9QdrAABbWHDc9BtfMAi1BGBQCGBBBEdEAcfXA"]

def pOtherDefaultIgnorableCodePoint : String :=
  "0PAdqPBbsTBcfPAeh+Abtr7AcPI0aaHAB9dAd-hQdqP"

def pOtherGraphemeExtend : String :=
  String.join
    ["cn+AYAlGAYAdGAYAhIABAEBBBJBdHAYAdXAPAcjVA+AbaAAFABAFBdFAcHBbaYAebBB4jDAdMAvo9BerAAdUAiIAOA",
     "JAdAAJACABCFAhAAMAhRAiGAtZAMAbqDAufOBylTBGFylvNc-"]

def pOtherIDContinue : String :=
  "fXAwPAd5BIbtIAbrRBehNAbttJA"

def pOtherIDStart : String :=
  "geFBceRAVAd1MB"

def pOtherLowercase : String :=
  "fKAPApVIHB+EdAAbUAdmBAdbPb+NAbCbEvRANAQMgTP0QZb2SB4q+BgSAeBCDB1CDJAxaWACCBbJBIbwdVb9"

def pOtherMath : String :=
  String.join
    ["c+A1RCCA6BCBhbAA7CLAbADYBOBcBMEADBEESAEACJBADEGADBCBBCBFDDFEcLECDBBBBBABECBEBERCBBABGBAGBj",
     "CDfIBBAYARAn9BMIFEFBCBDEOABACFYBbZABA9DJBkWB-JmTVb-DbABbvdDABAEAgTABAbvgBcUBcGBBCACBCDBLBA",
     "BGBcABDCHBGB7BDBEBADGBkTCYBYB+BYB+BYB+BYB+BYBHCbRfqADB6BBBACABJBDBABAGAEABABABCBBBACABABAB",
     "ABABBBACDBGBDBDBABJBQFCBEBQ"]

def pOtherUppercase : String :=
  "ilAP0GZdtdAZGZGZ"

def pPatternSyntax : String :=
  "bBOKG6DBA6DbCGBABBBABBEAEADAXA-AhyYXIOCSBJjRwPfAtV+bdLqAd-mBCEYPAbtiNBiFB"

def pPatternWhiteSpace : String :=
  "JESAdEAh2IBYB"

def pPrependedConcatenationMark : String :=
  "bqAFgXAbRAmABcQAcb46APA"

def pQuotationMark : String :=
  "bCAEAeDAPAh08HZBdqHAoJDNCbtrBDf9AEAc6B"

def pRadical : String :=
  "luAZBcYMgV"

def pRegionalIndicator : String :=
  "d2pGZ"

def pSentenceTerminal : String :=
  String.join
    ["bBAMAQAbkJAeTCfUAbLChWAb9ABADBjFBbxEByWAEByFAgGBe9BbNAFAj6BlCDfCBKBCB9Cf7BcBB3EAXBJCdfPCjS",
     "ANAWBnNA3h8AiOBhDADAl+BcWBc-AeYBeTCeQBhZAurGACBb7ADBfJAMAQAcBAcxUBbh9EbMDf9BdVDd-CeBBGAQBc",
     "YBBBdMAjKBdVBlVBFOdJBhZCqFABAh7BcXBnEBvUBcKBszJBeFAcBBLArJBjIAtqGAhpIA"]

def pSoftDotted : String :=
  String.join
    ["dJBgEAiZA+AbUAUAkAAdCABAgiJAbTANADAeEAe9AnFAgWBczSAdj3FBbSBbSBbSBbSBbSBbSBbSBbSBbSBbSBbSBb",
     "SBceGAjRB6A"]

def pTerminalPunctuation : String :=
  String.join
    ["bBAKABALBDAz+AIAqBAbZAcIAOABCfUAbLKBAhLBbWFBH-AiFBbhUBfMAEFjXByVHyFAd8CcHBe9CDAbHDCBj6BlCD",
     "fCBKBBC9Cf7Eb+B3EAXBJCdfPCjSANAEAKABBDBnMB3h7BiNChDEl+BcWBc-AeXCeTCd-AQBhZAurGACBbZCBDfJAK",
     "ABALBDAcBACAbb6AbQAbeGAgHAjWBeYFcEFcZD3YEbMDf9GdQDd-CeBBGAQBcYEdMAjKBdVCMBlGDDOdJBhZCqFABA",
     "h7BcXBEBm+CbNAuFBcKBbjLErpZBeFAcBCKArJBjHBtqGAhpHD"]

def pUnifiedIdeograph : String :=
  "naAgn-cAup-wqOBBABBKABABBCCcboWbjw-bAebZGg9CfuBOhjQPtNenCe0KFec-"

def pUppercase : String :=
  String.join
    ["cBZdFWBGbBABABABABABABABABABABABABABABABABABABABABABABABABABABABACABABABABABABABACABABABAB",
     "ABABABABABABABABABABABABABABABABABABABBBABADBBABBBCCDBBBCDBBBBABABBBACABBBCBABBDAHACACACAB",
     "ABABABABABABACABABABABABABABABACACABCBABABABABABABABABABABABABABABABABABABABABABABABABABAB",
     "ABABAHBBBCABDBABABABAjBABADAIAGABCBABBBQBIbDACCDABABABABABABABABABABABAFACABBCbSbQABABABAB",
     "ABABABABABABABABABABABABAJABABABABABABABABABABABABABABABABABABABABABABABABABABABBBABABABAB",
     "ABACABABABABABABABABABABABABABABABABABABABABABABABABABABABABABABABABABABABABABABABABABABAB",
     "ABABABABACbFc0JbFBAFAwScVceTAGbKCCkAABABABABABABABABABABABABABABABABABABABABABABABABABABAB",
     "ABABABABABABABABABABABABABABABABABABABABABABABABABABABABABABABABABABABABABABABABABABABABAB",
     "ABABAJABABABABABABABABABABABABABABABABABABABABABABABABABABABABABABABABABABABABABABABABABAB",
     "ABABABABABABAJHIFKHIHIFLABABABAIHcIDMDMDMELDiGAEADCCCCADEGABABABDCDKBFA6PTAzSZbzQbPbQABCCA",
     "BABABDBACAICBABABABABABABABABABABABABABABABABABABABABABABABABABABABABABABABABABABABABABABA",
     "BABABABABABABABABABAIABAEA4kNABABABABABABABABABABABABABABABABABABABABABABATABABABABABABABA",
     "BABABABABABAeHABABABABABABADABABABABABABABABABABABABABABABABABABABABABABABABABABABABABABAK",
     "ABABBBABABABAEABACABADABABABABABABABABABABEBEBABABABABABABABDBABBDAFABABABAYAvzLZbgFbHeIbD",
     "e8KBOBGBBbxKbSe9Vcz6-vmA-znAZ6Z6Z6ABBCACBCDBH6Z6BBDCHBG7BBDBEBADG7Z6Z6Z6Z6Z6Z+YbBYbBYbBYbB",
     "YbBAejVbBcaOZGZGZ"]

def pVariationSelector : String :=
  "gaLCBAbzpQP0axQhP"

def pWhiteSpace : String :=
  "JESAdEA6Afo-Acl-K9BFAbPAd3AA"

def pXIDContinue : String :=
  String.join
    ["bQJHZEABZbPAKABACAFWB+BoJELOEHABARdUBBDCBAGEBABTBcSBeKBECfFBbFCAGbIIbMBABBBBBAI6ED9KFcJEdF",
     "BHCJBSCAQb6CdEObVEACACbNS7EKFXBFIcKBeACJBSBHCBCVBGBADDCICBCDIAEBBECLKABACCBFEBCVBGBBBBBBCA",
     "BEEBCCDAHDBAHPLCBIBCBVBGBBBECJBCBCCAPDCJJGBCBHCBCVBGBBBECICBCCHCEBBECJBAQBBFDCBDDBBABBDBDC",
     "DLEEDCBDCAGAOJQMBCBWBPCIBCBDHBBCCACDCJQDBHBCBWBJBECIBCBDHBGBBDCJBCMMBCBbSBCBEFDHECJKFBCBRD",
     "XBIBACGDAEFBABHGJCBNbZFOBJbHBBABEBXBABWCEBABGBJCDbAAXBGJLABABAEJBbDETBRBbDJAbZcJGcNCbFBAFA",
     "CbKBkMBDCGBABDCbIBDCbABDCGBABDCOBbYBDCcCCCJIOPQcVCFDtLCQBZFcKDKHVJVLTMMBCBBMcTDAEBCJbBCBKG",
     "cYHbKFcFK+BLELKbHCELbLEZGKbF7Eb+B8CKGJNAINBPbRcMDJRIMdTMbXIJDbQCKFbKCCQCBbGFqVCFCbFCFCHBAB",
     "ABAB+CbUBGBADCBGDDCFEMFCBGPBbRBTA8ANAQMbTMEADLRAEACJBACFGABABABPCDFEEARbIctXhEGIMbFBAFACbX",
     "HAPXJGBGBGBGBGBGBGBGB-qFCZOBECEEcVCBCCBc+FbKBc9R-bQPqAgn-cAvuMcDbNCiMD7UbPEJBdSbFICdGCcCCB",
     "BABHVbVEATbTMcFKJGXDABbQCbDM8DcAOKG+BbWJNCJGWDcIYCCPCEKFCFCFJGBGBbKBNGd6BBCJGk3DMWEbQiiElN",
     "CdJbGGMEFLBMBEBABBBBBdLbBeKGgZSb-CbVbIJGPQPDBYCbBABADABABABABd9TJHZEABZKcZDFCFCFCCbDLBZBSB",
     "BBOCNbCd6cFbUeIAeC8DbQPA--N9FbKF9CbDEHBEbKe9CJGbDEbDEbHIbTMKBOBGBBBKBOBGBBDbTMjWJVKHYFBbJB",
     "IcFFCABbLBBDACWKWJ+cBSBBKVKZcGbXGBcADBBFHBCB8CCEAbA8D8bDHB9ZbVKVKSNRdOcIbXbSNbSNbHIJGbFDEB",
     "Wh6bJBBDBQCbXbAKAIbA-VbKU7WJcG-PJb7HANYHJGbUBJEDIbDCAJcEEDBMBAbDRBbEGDb+GBABDBOBJHb6FJGDBH",
     "CBCVBGBBBEBJCBCCCAGAFGCGDELJBACABbFBJBACABDBHNB9cKFJED+cFBAIJfGbVCIXFbCcADALJbGbYHJGT86COE",
     "JGGfZb6dFcJVHCACHBBB9BBCIMJcGHCbNCHBB7b+IAIcJDAScIgHbAPJGIBbMBIPJY9CVBNcJGBBBbLDABBBIIJGFB",
     "BBbEBBBFHJjWWJQBbIDENKcVAcP2ZdGdORgDcsMdAPbbPQVKd26FsGgvZbZbwGrYH+BJGcOBJG9CELbWJDMJJUFSnQ",
     "bMDJgGb-eAcKEbYHQcABBBLBOf5XIbgVbJJixHDBGBBBjCPA9CCAODImLciEdKFMDIHJDBecRJqGbNCWq+EDFIHCG+",
     "DeUCn7cUBcGBBCACBCDBLBABGBcABDCHBGB7BDBEBADGBkTCYBYB+BYB+BYB+BYB+BYBHCbRqAbWEbRIAOAWEBObcQ",
     "+GFgVGBQCGBBBEFb9bBAdQbMDNCJEAkB+RbZoWbJgWbKpFGBDBBBOBgELGbJcLEJbfGDB6BBBACABJBDBABAGAEABA",
     "BABCBBBACABABABABABBBACDBGBDBDBABJBQFCBEBQdjUJbaGbjw-bAebZGg9CfuBOhjQPtNcnCq9bpCe0KFec-vxk",
     "QhP"]

def pXIDStart : String :=
  String.join
    ["cBZGZbPAKAEAFWB+BoJELOEHABAeBEBBDCBAGABCBABTBcSBeKIfFBbFCAGbIcH6EDbNbKbDBBdCBAPBHBKCCAQAB9",
     "9cYLAYbAJBEAFVEAJADAXYHKFXBFRbJb6bVDASAHJPPEHCBCVBGBADDDAQANBBCOBKAIFEBCVBGBBBBBB-DBATCQIB",
     "CBVBGBBBEDASAPBXALHCBCVBGBBBEDA+BBCPARABFDCBDDBBABBDBDCDLWAbUHBCBWBPDA6CCACB+AEHBCBWBJBEDA",
     "-BBBPBRIBCBbICAQAFCICYFFRDXBIBACGb6bPBANGb6BBABEBXBABJBAKACEBAVDbAAb-HBbD7EdTbKUAQFEDDADBH",
     "CEMMARbFBAFACbKBkMBDCGBABDCbIBDCbABDCGBABDCOBbYBDCcCbFPQcVCFDtLCQBZFcKDKHRNSOROMBCPbTbDAEA",
     "cDcYHbIBAFcFK+bR9CELbLEZbWWJbUcSAc9bORHbW9NBKbL6bDbJCKbDCKFbKCCbJDBFBBDAFf-cAiVCFCbFCFCHBA",
     "BABAB+CbUBGBADCBGDDCFEMFCBGdUANAQMdFAEACJBACFGABABABPCDFEEARbIctXhEGDDBMbFBAFACbXHAQWJGBGB",
     "GBGBGBGBGBGrGCZIHECEEcVGCBcZBDFbKBc9R-bQPqAgn-cAvuMcDbNCiMDPKBUbOQ+CcPbHICdGCcCCBBABHVPBCB",
     "DBW9bTObRb+FDABBL7KWZ8HbO8AQEBJKEBbIXCBHUWDADbRBADBCECABAYCCKHCMFCFCFJGBGBbKBNGdS9k3DMWEbQ",
     "iiElNCdJbGGMEFABJBMBEBABBBBBdLbBeKGgZSb-CbVbIJdXABADABABABABd9bEZGZLbXC+DFCFCFCCbDLBZBSBBB",
     "OCNbCd6cFbUiL8DbQbP-N9FbFK9CbDEHBEbKe9SbDEbDEbHIbTMKBOBGBBBKBOBGBBDbTMjWJVKHYFBbJBIcFFCABb",
     "LBBDACWKWJ+cBSBBKVKZcGbXGBcAAPDBCB8bK8D8bDHB77bVKVKSNRdOcIbXbSNbSNbDbG7JWh6bJGBQCb78KAIVbK",
     "RbOU7WMbUbZBCANbMbAY6bD9ACAIbCDAMbPODVABAbDRBYTBb-GBABDBOBJHbObGHCBCVBGBBBEDASAME+JBACABbF",
     "BAZABAbMbUSDUC+bPUBBAfYbObJDbEbPUAb7bKNAcH6bFGfZbLdUb--HCACHBBBXPABAc+HCbGQABA8AKbHHAVALbN",
     "TAScIgHbA-IBbERAbR9dQGBBBbFVAZFBBB-OAkHSPABMBbBd8AcP2ZdGdORgDcsMdAPbbPRFZd26FsGgvZ9bxCrYH+",
     "RcOR9SbPQD-UFSnQbMgTb-eAcKFAcCMcABBA8f5XIbgVbJJixHDBGBBBjCPA9CCAODImLciEdKFMDIHJf1GcUBcGBB",
     "CACBCDBLBABGBcABDCHBGB7BDBEBADGBkTCYBYB+BYB+BYB+BYB+BYBHbzU+GFiFb9eSbMKGQAkB9SbLpE7hE9CApP",
     "GBDBBBOBgEb7cDHAbfUDB6BBBACABJBDBABAGAEABABABCBBBACABABABABABBBACDBGBDBDBABJBQFCBEBQekEbjw",
     "-bAebZGg9CfuBOhjQPtNcnCq9bpCe0KFec-"]

end Ranges

open Ranges in
def properties : List (List String × String) :=
  [(["AHex", "ASCII_Hex_Digit"], pASCIIHexDigit),
    (["Alpha", "Alphabetic"], pAlphabetic),
    (["Bidi_C", "Bidi_Control"], pBidiControl),
    (["Bidi_M", "Bidi_Mirrored"], pBidiMirrored),
    (["CI", "Case_Ignorable"], pCaseIgnorable),
    (["Cased"], pCased),
    (["CWCF", "Changes_When_Casefolded"], pChangesWhenCasefolded),
    (["CWCM", "Changes_When_Casemapped"], pChangesWhenCasemapped),
    (["CWL", "Changes_When_Lowercased"], pChangesWhenLowercased),
    (["CWT", "Changes_When_Titlecased"], pChangesWhenTitlecased),
    (["CWU", "Changes_When_Uppercased"], pChangesWhenUppercased),
    (["Dash"], pDash),
    (["DI", "Default_Ignorable_Code_Point"], pDefaultIgnorableCodePoint),
    (["Dep", "Deprecated"], pDeprecated),
    (["Dia", "Diacritic"], pDiacritic),
    (["Emoji"], pEmoji),
    (["EComp", "Emoji_Component"], pEmojiComponent),
    (["EMod", "Emoji_Modifier"], pEmojiModifier),
    (["EBase", "Emoji_Modifier_Base"], pEmojiModifierBase),
    (["EPres", "Emoji_Presentation"], pEmojiPresentation),
    (["ExtPict", "Extended_Pictographic"], pExtendedPictographic),
    (["Ext", "Extender"], pExtender),
    (["Gr_Base", "Grapheme_Base"], pGraphemeBase),
    (["Gr_Ext", "Grapheme_Extend"], pGraphemeExtend),
    (["Gr_Link", "Grapheme_Link"], pGraphemeLink),
    (["Hex", "Hex_Digit"], pHexDigit),
    (["Hyphen"], pHyphen),
    (["IDSB", "IDS_Binary_Operator"], pIDSBinaryOperator),
    (["IDST", "IDS_Trinary_Operator"], pIDSTrinaryOperator),
    (["IDSU", "IDS_Unary_Operator"], pIDSUnaryOperator),
    (["ID_Compat_Math_Continue"], pIDCompatMathContinue),
    (["ID_Compat_Math_Start"], pIDCompatMathStart),
    (["IDC", "ID_Continue"], pIDContinue),
    (["IDS", "ID_Start"], pIDStart),
    (["Ideo", "Ideographic"], pIdeographic),
    (["Join_C", "Join_Control"], pJoinControl),
    (["LOE", "Logical_Order_Exception"], pLogicalOrderException),
    (["Lower", "Lowercase"], pLowercase),
    (["Math"], pMath),
    (["MCM", "Modifier_Combining_Mark"], pModifierCombiningMark),
    (["NChar", "Noncharacter_Code_Point"], pNoncharacterCodePoint),
    (["OAlpha", "Other_Alphabetic"], pOtherAlphabetic),
    (["ODI", "Other_Default_Ignorable_Code_Point"], pOtherDefaultIgnorableCodePoint),
    (["OGr_Ext", "Other_Grapheme_Extend"], pOtherGraphemeExtend),
    (["OIDC", "Other_ID_Continue"], pOtherIDContinue),
    (["OIDS", "Other_ID_Start"], pOtherIDStart),
    (["OLower", "Other_Lowercase"], pOtherLowercase),
    (["OMath", "Other_Math"], pOtherMath),
    (["OUpper", "Other_Uppercase"], pOtherUppercase),
    (["Pat_Syn", "Pattern_Syntax"], pPatternSyntax),
    (["Pat_WS", "Pattern_White_Space"], pPatternWhiteSpace),
    (["PCM", "Prepended_Concatenation_Mark"], pPrependedConcatenationMark),
    (["QMark", "Quotation_Mark"], pQuotationMark),
    (["Radical"], pRadical),
    (["RI", "Regional_Indicator"], pRegionalIndicator),
    (["STerm", "Sentence_Terminal"], pSentenceTerminal),
    (["SD", "Soft_Dotted"], pSoftDotted),
    (["Term", "Terminal_Punctuation"], pTerminalPunctuation),
    (["UIdeo", "Unified_Ideograph"], pUnifiedIdeograph),
    (["Upper", "Uppercase"], pUppercase),
    (["VS", "Variation_Selector"], pVariationSelector),
    (["WSpace", "White_Space", "space"], pWhiteSpace),
    (["XIDC", "XID_Continue"], pXIDContinue),
    (["XIDS", "XID_Start"], pXIDStart)]

def otherProperties : List (List String) :=
  (otherPropertyText.splitOn ",").map fun names => names.splitOn " "
where
  otherPropertyText : String :=
    String.join
      ["kAccountingNumeric cjkAccountingNumeric,kOtherNumeric cjkOtherNumeric,kPrimaryNumeric cj",
       "kPrimaryNumeric,nv Numeric_Value,bmg Bidi_Mirroring_Glyph,bpb Bidi_Paired_Bracket,cf Cas",
       "e_Folding,kCompatibilityVariant cjkCompatibilityVariant,dm Decomposition_Mapping,EqUIdeo",
       " Equivalent_Unified_Ideograph,FC_NFKC FC_NFKC_Closure,lc Lowercase_Mapping,NFKC_CF NFKC_",
       "Casefold,NFKC_SCF NFKC_Simple_Casefold,scf Simple_Case_Folding sfc,slc Simple_Lowercase_",
       "Mapping,stc Simple_Titlecase_Mapping,suc Simple_Uppercase_Mapping,tc Titlecase_Mapping,u",
       "c Uppercase_Mapping,kIICore cjkIICore,kIRG_GSource cjkIRG_GSource,kIRG_HSource cjkIRG_HS",
       "ource,kIRG_JSource cjkIRG_JSource,kIRG_KPSource cjkIRG_KPSource,kIRG_KSource cjkIRG_KSou",
       "rce,kIRG_MSource cjkIRG_MSource,kIRG_SSource cjkIRG_SSource,kIRG_TSource cjkIRG_TSource,",
       "kIRG_UKSource cjkIRG_UKSource,kIRG_USource cjkIRG_USource,kIRG_VSource cjkIRG_VSource,kM",
       "andarin cjkMandarin,kTotalStrokes cjkTotalStrokes,kUnihanCore2020 cjkUnihanCore2020,kRSU",
       "nicode cjkRSUnicode Unicode_Radical_Stroke URS,isc ISO_Comment,JSN Jamo_Short_Name,na Na",
       "me,na1 Unicode_1_Name,Name_Alias,blk Block,bc Bidi_Class,bpt Bidi_Paired_Bracket_Type,cc",
       "c Canonical_Combining_Class,dt Decomposition_Type,ea East_Asian_Width,hst Hangul_Syllabl",
       "e_Type,InCB Indic_Conjunct_Break,InPC Indic_Positional_Category,InSC Indic_Syllabic_Cate",
       "gory,jg Joining_Group,jt Joining_Type,lb Line_Break,NFC_QC NFC_Quick_Check,NFD_QC NFD_Qu",
       "ick_Check,NFKC_QC NFKC_Quick_Check,NFKD_QC NFKD_Quick_Check,nt Numeric_Type,vo Vertical_",
       "Orientation,CE Composition_Exclusion,Comp_Ex Full_Composition_Exclusion,CWKCF Changes_Wh",
       "en_NFKC_Casefolded,XO_NFC Expands_On_NFC,XO_NFD Expands_On_NFD,XO_NFKC Expands_On_NFKC,X",
       "O_NFKD Expands_On_NFKD"]

end FleetSearch.Unicode
