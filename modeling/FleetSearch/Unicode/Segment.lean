import FleetSearch.Unicode.Code

set_option autoImplicit false

/-!
Ages, and the classes by which text falls into user-perceived characters, words and sentences.
Each text of runs gives, from the first character on, the size of a run less one and the place
of its value among the names.
-/

namespace FleetSearch.Unicode

-- The versions of Unicode, the first one first. Place zero of a run is for what no version has
-- assigned yet, so the first version has place one.
def ageNames : List (List String) :=
  (ageNameText.splitOn ",").map fun names => names.splitOn " "
where
  ageNameText : String :=
    String.join
      ["V1_1 1.1,V2_0 2.0,V2_1 2.1,V3_0 3.0,V3_1 3.1,V3_2 3.2,V4_0 4.0,V4_1 4.1,V5_0 5.0,V5_1 5.",
       "1,V5_2 5.2,V6_0 6.0,V6_1 6.1,V6_2 6.2,V6_3 6.3,V7_0 7.0,V8_0 8.0,V9_0 9.0,V10_0 10.0,V11",
       "_0 11.0,V12_0 12.0,V12_1 12.1,V13_0 13.0,V14_0 14.0,V15_0 15.0,V15_1 15.1,V16_0 16.0"]

def ageRuns : String :=
  String.join
    ["pVBDE9BHEAGAHRECHKINJcYBEEBHbOBAEJBEEQHcFBIEAGHHEICHBBAEMGDKBBBKBAABCJABAQDAGBAAABAATBAAbL",
     "BAKGBAEBGABAEABAEABAEABAERBBFAGEHDIAELBAEcBBAELBAEbIBAKBEBGDEbUBBGBBBGBBBGAJ7BBEHBBIBBFJPG",
     "DJPKBLBMHQAAbFBBAGBAUbGBAUABAEBABQANAAQCAIMCJBAJIBACCIHA6BDAAUEBKADHANAQEKAIABIHEKABAPAYAI",
     "ABAMZBEKSBCECHFIAMNBBGcHBBEEBAEOBAE9BBHJBEEAHNEAA9ECH6EBACH9IRKbQEAGNAb6JBACUbNLBAOLAA7MBA",
     "AMAAKTEA+YAABYEAA7HYANAQKNFQBRAYHSJXKYAUOSAR6NAQALCBAHbUBBMRBALAMEBALBMYBBKEMAQBLBJAIBJAQC",
     "BAAHBBABBBAVBAAGBAAABCADBBAABAHGBBABBBACBAIHAABDABBAAEBBAUBALBTAUBAAHABAHAAFBDABBBAVBAAGBA",
     "ABBAABBAABBBAABAAEBDABBBACBCAAKGADBAAABGAOBAKAUJACBAAGBAHABAACBAAVBAAGBAABBAAEBBAJBAACBAAC",
     "BBAABOAABCHBAJBANAHGAARFTAACBAAHBBABBBAVBAAGBAABBAAAHDBBAHBAKBABBBACBGAAXBBDABBAACBBKBAKBA",
     "HFMJABBAAFBCACBAADBCABBAAABAABBCABBCACBCAHBAICBDAEBCACBAADBBAAKFAABNAAILBHHEAAQCBAUHBAACBA",
     "AWBAAJBAQEBBAAYAKGBAACBAADBGABBAABKARBAAYBABBBKBAJBGAAVHKASAQBBAUHBAACBAAWBAAJBAAEBBABHGBA",
     "ACBAADBGABBFAAYABAABBBJBAJBAABJAZLAATAQBBAXHBAACBAAWBAMPBAMBTAKFBAKAACBAADBAMASDACSABGSARB",
     "BBKBAJBFKCSGKAAAXBEAARECAXEAAIEAAAEBAGECAAEDAFEAAAEAAHEFAJQBACELAbZBDA8BbEABBAAABAAAVBBAVA",
     "BAAAVABFVDBAVGBAVCBAAABAAABBVBBAVMBAVCBBAEBAAABAAFBAZAAJBBABBBN-AcHCAAbACAEBKDA6CDMFCAEACA",
     "AUCCEGCAEACCEAAOEAAAKAEBICKDLBMbEAbBEAKEEAKBEAKGECKDEFKZEb-KDLBKbFBAAANEAANBAbGBBGBIABAICN",
     "cZBELcDBELcRBFLGEAIb+EAIAEAADEBAGEAAAEAADEBAbGEAIAEAADEBA+EAIAEAADEBAGEAAAEAADEBAGEAIGEAAW",
     "EAI+EAIAEAADEBAGEAIbGEAISEBABMBI7ECAZIFAcUEARBAFRBAALtVEIL8ECAcQEHQGAMGAYGGAYIAAYWGIATGLAM",
     "GAACGAABGLAc8EAHBAJEFAJHFAOEAYJEFAcXEAUGAbJEAKEAcFLJA8HBQAALHDALHDAAHCAbJHBAEHKAbJIBLDAZIF",
     "AJIALCABI-H7IBABIb+LAA8LBAKLFAJLFANLBAOQBXNYbQAcLJAYAAB7bMJBYA7bKKCNLKFNbTMHADMbXKCAOKCAbS",
     "KISB7EAbKUBACUHNHAbCLDNATBQAVEAdLHcXIGJ7KOQDTAYASAMALBJe6BACDKcZBFKVBBAFBBAbFBBAFBBAHBAAAB",
     "AAABAAABAA+BBAbUBAAOBAANBBAFBAASBBACBAAIBAAbOBAEWBAGFEEGBHBIAGGIEGAKAADPGBAGBA6BAAEIHMCAKB",
     "ACADCEBGDICLAMAOCQARATAYOARBBEGGAIDJAKOAbYBBEAHAIOGAIBJAKCLbPBAEAJDKALBRDAc6BIELGhRBNGABAE",
     "dYBAEAG9EbTGBHKILJALKMGQDSATbEBBEC7VAKBUAeKBTGAHeVBJGcPBHEHGTBBHBGAIAEcVBBELGBIJGHHKIAKBLB",
     "HPIAJJKCLDKJLAMSLAMALDMXLAQDBAMDBBM7BAMbCBAMABAMDBCMABALGBBMGBNG+BCMXBAMNBAMGIDJANAKANBM7G",
     "DKPGh-Ep-GNHFIGJEKDJbIKCQEKELZQBA-QAAAXbBQCULQAVHQATYUDROUAVbOIAYbOIAYMJCKALCKDJFKBLdKIGLB",
     "NEAbMIAAANEAANBAbVIBNGAAIAMNAAMWIIAGIAAGIAAGIAAGIAAGIAAGIAAGIAAGIAA-KXIDKBISKALJNGQBSETEUA",
     "VCXKYbBAZEAAcYELAgVEZALED6bXBCECGAEABAAcTBBGBAFBBGc9BAGEAbHBAKATAUAAc9BAAPBXECMEXPITKB7IAA",
     "6PG8BBHAAbDBLLAHOG7BBHAIbRBOGLBDHbOBAWdWBDHdCBBH+BAHgnVEJXb-HunFBVIHKHLANIRUTEUMXCYbeMECAR",
     "EBGPEAGLEAGCEAGAEIAbPLjLKTA-KBMRKHN7KFQARANcXLHAWIDJEKBJdKKBMARBMBNLQJMANCQASAUBQFRBUFVBYE",
     "VDXC7BABYAAAYAAEYC7UACYBXAQBNAMEKbLIAXCAJLFAbXJHAcEKASHALKFA7LBRBUcTKKAAK8LCAcNLAAKLDABL+Q",
     "AAbWKIANKBAJKBADK7LDQcCLXAELWNJAFMBAFMBAFMIAGMAAGMAAbPQDRBQBVDXDAcPRbNLBAJLFAk3DCLAWLDAbQL",
     "DAb5-CgrNBBNb6GCLBAdJIbFAGBLAEBEAAEYBAAEBAAABAABBAABBAAdLBPMAYPAlMBPYb-BBAbVBGAAY-FLBAGAHB",
     "YPGJIFADBCKGQBRUBBGBHJBAASBAADBDACBAGABAAeGBBAABAAc9BBGc9BCAFBBAFBBAFBBACBCAGBAAGBJACEADCB",
     "LHAAZHAASHAABHAAOHBANHbBAd6HEACHDAbMHCAIHcKIBQBSAALKAXCAAQbOAbNKeBA8KCAbQKOA7QDA+FAQDFIACT",
     "6FEAbKQEA9HAAAHbDIDANIbJAbFFBHbFFcPHBAJHFAbDSDAbDSDAbHQHAbTQKAAQKYAAOYAAGYAABYAAKYAAOYAAGY",
     "AABYCAbT7LAjWQIAVQJAHQXAFYAAbJYAAIYcEAFHBAAHAAbLHAABHCAAHBAAHVLAAILb+QHAIQbPASRAABREAERZJB",
     "LCAAJZKEAAKb-AbXNDABRBNPRBAbNRDIAABIEAHIAACIAA6IBUBACIDAIIAUGAIIGA-L-Q-AbGQDALQIAbVLCA8LBA",
     "6LEAHLRQGADQLAGQcPAcILbWAbSRMAbSRGAFRbHUHAJUFAbF7CA87HAB7gPA+LAAbJXAACXBABXPAC7bWAA7CZbHUH",
     "AbJUVAZYbFA7XTAWVIAcNMDA9MFYIAAQcBLAYJAAUBAYNGAJNFAbUNAANNCUAXHAbGQIAcINDRAQBXJNAQERAATQKA",
     "RQAAbKQASCZb9AGRAAARAADRAAORAAKRFAb6QEAJQFAARCQAAHQBABQBAVQAAGQAABQAAEQAAAUIQBABQBACQBAARF",
     "AAQEAGQBAGQCAEQKAJ7AAA7BAA7AAbF7AAJ7AAA7BAA7AAD7AAJ7AAB7HAB78AcZSAXASAAASAUAVBX9AcHQHAJQfF",
     "AbVQBARQTRbBAcEQKAJQFAMSSAbXNAVAYFAJNFAT77AZRAUBAORDAPRGYfYAb7UdDAcSQLAAQGXBAAXBAHXAABXAA9",
     "XAABXBALXIAJXcFAHVBAbNVBAKV6AcHTHAbTTBVWTAUETMAPYbYQGAJZfVAbB7NAJ7FAISAAbMSAANSJA8SCA-SBAV",
     "SAANScIAGTAABTAAbLTCAATAABTAAITHAJTFAFUAABUAAbEUAABUAAFUGAJUjVAYUGAQZAAbIZCA7ZA7cUAAXOAbRV",
     "MAAV1OJbJQARdFAdCJLQAADJAQKAgDRcsLAdCYMAbbOLAZIV8ZJAd267EAsGRgvYAbZ7bwFArYMGA+QAAJQDABQcOY",
     "AAJYFA9QBAFQJAcFQJAJQAAGQAAUQEASQnPAbZ7gFAc6UdEAcENFVDAAVbONIVGAQNb-AASATBVAXKABXNAf5MSEUF",
     "VHAxSSpCXbIAA7IXixGADYAAGYAABYAABMi8TDYOAAZ8ACVBAAZNADVHAmLTciDAdKQEAMQCAIQGAJQBAHQd07AhZ7",
     "FAnT7cLAbNYBAWYIAdTYb7AhVFJAbGFBAAKfTFKRBYUAcFIdZATZLATULAcWHIARJGUeGAcUFAAcGFAABFBAAFBABF",
     "BADFAALFAAAFAADFAHBFAAcAFAADFBAHFAAGFAA7FAADFAAEFAAAFCAGFAAkRFBIBAjBFBJBAbRFuLROAERAAORbcP",
     "A+YFAFZgUAGSAAQSBAGSAABSAAESEAb9ZbAAAZdPAbMVCANVBAJVDABVj-A+YQAbZVEAAVoPAbJZgVAbK7DAA7o-AG",
     "YAADYAABYAAOYAAgEQBAPQbIAcKSAVDAJSDABSyQAcDUcLAb8VgBADNAA6NAABNAAANBAANAAJNAADNAAANAAANFAA",
     "NDAANAAANAAANAACNAABNAAANBAANAAANAAANAAANAAANAABNAAANBADNAAGNAADNAADNAAANAAJNAAQNEACNAAENA",
     "AQNbTABNiNAbLKDAdDKLAOMBANMAQAAOMAAOMVQJAKLBQCX+LAUAMALKMALAMALBMALCMALCMELHMALGMALJMBNAVC",
     "XIMALAMBLBMALJMDLBMALJMRSAXbXAZMALBMMAbBLIMASDAILGABMNAFTeZAbAMLQCRFMAQcFMAQBRTMLQbEMAQEMD",
     "QERLQQMGQHRb+MAQAMAQfVMAQDMBQARb9MBQDNGQERXMRQASbIQAScVQEMANPMANCMANAMANAMANAMANCMANFMBNDM",
     "ANAMBNDMANLMBQBRKMbPQcFMJQARBSBTAVBXDAAZCYMQCADQCSBTAUAVBXCAdTMCZDAEZcUQDUAZFALVDAAYOALQDA",
     "bXQHAJQFAbHQHA9QBABXJ7DAB7b9ALTAXCVIRFSATHSHTASBTLSAVLSATCUOSMTEUAVAXDUBXAYAUAVDUERMSFTKUB",
     "XFVCXBVJUFVARBUHVAXAYCVWTYUcTVLANUBADVAXCZCVBYCACVDXBZA7EAA7FVSXDYCZGXDYCZA7AZCXCYA7GABZGX",
     "CYBZA7BAA7HYAZA7FAGYBZGAeSXAAbWXbE7JXbaDABCbjwWFGXBY-AebULDYAZFAg9MBAfuBRNAhjQTOAtN6cnBAq9",
     "Fbo-ABCe0KXEAec-ZbxcNABCb559ABCb559ABCb559ABCb559ABCb559ABCb559ABCb559ABCb559ABCb559ABCb55",
     "9ABCAAAF9Ac-Fd-AhPHb5qNAeaaBC"]

def graphemeNames : List (List String) :=
  (graphemeNameText.splitOn ",").map fun names => names.splitOn " "
where
  graphemeNameText : String :=
    String.join
      ["CN Control,CR,EB E_Base,EBG E_Base_GAZ,EM E_Modifier,EX Extend,GAZ Glue_After_Zwj,L,LF,L",
       "V,LVT,PP Prepend,RI Regional_Indicator,SM SpacingMark,T,V,XX Other,ZWJ"]

def graphemeRuns : String :=
  String.join
    ["JAAIBAABRAc+QbAAMQAAsRQdPFiSQGFiGQbMFAQAFAQBFAQBFAQAFbXQFLJQKFAQAAbNQUFPQAFdEQGFALAQFFBQBF",
     "AQDFbAQALAQAF9Q6Fc6QKFbZQIFIQAFXQDFAQIFAQCFAQEFbKQCFbTQBLFQHFbJQXFAL-FANbVQAFANAFAQCNHFDNA",
     "FBNAQGFJQBF8QAFBNbXQAFAQAFBNDFBQBNBQBNAFIQAFJQBFZQAFBQBFANbXQAFAQCNBFDQBFBQCFCQAF9QBFCQAFK",
     "QBFANbXQAFAQCNEFAQBFANAQBNAFTQBFVQFFAQAFBNbXQAFAQBFANDFBQBNBQBNAFGQCFJQBF9QAFb6QAFANAFBNCQ",
     "CNAQCNAFIQAFbHQAFCNAFbWQAFAQCFDNAQCFAQDFGQBFKQBF8QAFBNbXQAFAQANAFBNAFBNAQAFBNAQBNBFGQBFKQB",
     "FOQANLQBFBNbWQBFAQAFBNDFAQCNAQCNAFALHQAFJQBF8QAFBNcFQAFDQAFBNCFAQAFAQGNAFRQBNb8QAFAQANGFLQ",
     "HFdBQAFAQANIFKQGFcIQBF6QAFAQAFAQAFDQBNbQQNFANEFAQBFEQKFAQbDFIQAFdFQDFANFFAQBFBNBFWQBNBFDQC",
     "FPQDFMQAFAQANBFFQAFOQAFdBQc-HcHPcXOk8QCF3RQCFAN7QBFAN8QBF9QBFb-QBFANGFHNAFBNKFIQAFbMQCFAAA",
     "FdUQBFbBQAFdVQCFDNBFCNDQBNAFFNCFg6QBFBNAFbYQANAFANGFAQAFAQAFBQHFFNJFBQAFbPQ+FbQQDFANbOQGFA",
     "NAFENAFBNbFQIFLQBFAN9QANDFBNBFANCFbXQAFANBFCNAFANCFBNbPQHNHFBNBFeXQCFAQMFANGFDQAFFQAFBQANB",
     "FgFQb-FqKQAAAFARBAXQGAbQQPAc-QbAFc59QCFeMQAFc-Q-FrJQFFdIQBF3oTQDFAQJF-QBFcPQBFiPQAFCQAFDQA",
     "FWQBNBFANDQAFcSQBNbRQPNBFZQRFMQAFbFQHFYQKFBNLQ8HCQCFANbOQAFBNDFBNBFCNbDQAFcCQFFBNBFBNBFLQA",
     "FHQAFANbNQAFbSQAFAQCFBQBFEQBFAQAFbIQANBFBNEQANAFhLQBNAFBNAFBNAQANAFRQAJ6KAJ6KAJ6KAJ6KAJ6KA",
     "J6KAJ6KAJ6KAJ6KAJ6KAJ6KAJ6KAJ6KAJ6KAJ6KAJ6KAJ6KAJ6KAJ6KAJ6KAJ6KAJ6KAJ6KAJ6KAJ6KAJ6KAJ6KAJ6",
     "KAJ6KAJ6KAJ6KAJ6KAJ6KAJ6KAJ6KAJ6KAJ6KAJ6KAJ6KAJ6KAJ6KAJ6KAJ6KAJ6KAJ6KAJ6KAJ6KAJ6KAJ6KAJ6KA",
     "J6KAJ6KAJ6KAJ6KAJ6KAJ6KAJ6KAJ6KAJ6KAJ6KAJ6KAJ6KAJ6KAJ6KAJ6KAJ6KAJ6KAJ6KAJ6KAJ6KAJ6KAJ6KAJ6",
     "KAJ6KAJ6KAJ6KAJ6KAJ6KAJ6KAJ6KAJ6KAJ6KAJ6KAJ6KAJ6KAJ6KAJ6KAJ6KAJ6KAJ6KAJ6KAJ6KAJ6KAJ6KAJ6KA",
     "J6KAJ6KAJ6KAJ6KAJ6KAJ6KAJ6KAJ6KAJ6KAJ6KAJ6KAJ6KAJ6KAJ6KAJ6KAJ6KAJ6KAJ6KAJ6KAJ6KAJ6KAJ6KAJ6",
     "KAJ6KAJ6KAJ6KAJ6KAJ6KAJ6KAJ6KAJ6KAJ6KAJ6KAJ6KAJ6KAJ6KAJ6KAJ6KAJ6KAJ6KAJ6KAJ6KAJ6KAJ6KAJ6KA",
     "J6KAJ6KAJ6KAJ6KAJ6KAJ6KAJ6KAJ6KAJ6KAJ6KAJ6KAJ6KAJ6KAJ6KAJ6KAJ6KAJ6KAJ6KAJ6KAJ6KAJ6KAJ6KAJ6",
     "KAJ6KAJ6KAJ6KAJ6KAJ6KAJ6KAJ6KAJ6KAJ6KAJ6KAJ6KAJ6KAJ6KAJ6KAJ6KAJ6KAJ6KAJ6KAJ6KAJ6KAJ6KAJ6KA",
     "J6KAJ6KAJ6KAJ6KAJ6KAJ6KAJ6KAJ6KAJ6KAJ6KAJ6KAJ6KAJ6KAJ6KAJ6KAJ6KAJ6KAJ6KAJ6KAJ6KAJ6KAJ6KAJ6",
     "KAJ6KAJ6KAJ6KAJ6KAJ6KAJ6KAJ6KAJ6KAJ6KAJ6KAJ6KAJ6KAJ6KAJ6KAJ6KAJ6KAJ6KAJ6KAJ6KAJ6KAJ6KAJ6KA",
     "J6KAJ6KAJ6KAJ6KAJ6KAJ6KAJ6KAJ6KAJ6KAJ6KAJ6KAJ6KAJ6KAJ6KAJ6KAJ6KAJ6KAJ6KAJ6KAJ6KAJ6KAJ6KAJ6",
     "KAJ6KAJ6KAJ6KAJ6KAJ6KAJ6KAJ6KAJ6KAJ6KAJ6KAJ6KAJ6KAJ6KAJ6KAJ6KAJ6KAJ6KAJ6KAJ6KAJ6KAJ6KAJ6KA",
     "J6KAJ6KAJ6KAJ6KAJ6KAJ6KAJ6KAJ6KAJ6KAJ6KAJ6KAJ6KAJ6KAJ6KAJ6KAJ6KAJ6KAJ6KAJ6KAJ6KAJ6KAJ6KAJ6",
     "KAJ6KAJ6KAJ6KAJ6KAJ6KAJ6KAJ6KAJ6KAJ6KAJ6KAJ6KAJ6KAJ6KAJ6KAJ6KAJ6KAJ6KAJ6KAJ6KAJ6KAJ6KAJ6KA",
     "J6KAJ6KAJ6KAJ6KAJ6KAJ6KAJ6KAJ6KAJ6KAJ6KAJ6KAJ6KAJ6KAJ6KAJ6KAJ6KAJ6KAJ6KAJ6KAJ6KAJ6KAJ6KAJ6",
     "KAJ6KAJ6KAJ6KAJ6KAJ6KAJ6KAJ6KAJ6KAJ6KAJ6KAJ6KAJ6KAJ6KAJ6KAJ6KAJ6KAJ6KAJ6KAJ6KAJ6KAJ6KAJ6KA",
     "J6KAJ6KAJ6KAJ6KAJ6KAJ6KAJ6KAJ6KAJ6KAJ6KAJ6KAJ6KAJ6KAJ6KAJ6KAJ6KAJ6KAJ6KAJ6KAJ6KAJ6KAJ6KAJ6",
     "KAJ6KAJ6KAJ6KAJ6KAJ6KAJ6KAJ6KAJ6KAJ6KAJ6KAJ6KLQWPDQbQOizBQAFxAQPFPQPFgOQAAe9QBFcPQLAqAQAFh",
     "BQAFeUQEFbuFQCFAQBFEQDFbHQCFDQAFfEQBFr8QDFmCQBFcPQCFcFQKFbQQDFdZQANAFANbUQOFbIQAFBQBFJQCFA",
     "NbMQCNDFBNBFBQALDQAFJQALbRQCFbDQEFANHFPQBNbLQAFLQBFANbPQCNIFBNAQBLEQDFAQANAFc7QCNCFBNAFANB",
     "FFQAFBQAFe8QAFCNHFUQBFBNbWQBFAQAFANAFDNBQBNBQCNIQAFJQBNBQGFCQEFf-QCNHFBNCFANAFWQAFcQQAFBNF",
     "FANAFBNAFANBFANBFhKQAFBNDFBQDNBFANBF6QBFcRQCNHFBNAFANBFdJQAFANAFBNFFANAFdEQCFBQDFANEFh-QCN",
     "IFANBFhUQAFENAQBNBQBFANAFALANALANAFeMQCNDFBQBFDNAFCQAN7QJFbHQFFANALDFHQAFIQFFBNCFbHQFLMFAN",
     "BFmUQANGFAQFFANAFcRQVFAQANGFANBFANBFdZQFFCQAFAQBFAQGFALAFcBQENAQBFAQBNAFANAFk6QBFBNIQBFALA",
     "NbPQBNEFCQBNAFANAFfhMQPAAFFQOFnuZQEFb6QGFbaXQAFAQbWNGQDFcQQAFKQBNtfKQBFAQDAes7QbNFBQWFq9QA",
     "FANCFCQANEFHAHFBQGF9QDFeTQCFb36QbWFDQbRFHQAFNQAFVQEFAQOFbkPQGFAQQFBQGFAQBFAQEFdDQAFe-QGFlW",
     "QAFb8QDFp7QDF4-QGFdMQGFce6QZMp6QEFyc5-Q-Ac-Fd-AhPFdqPAf15-Q"]

def wordNames : List (List String) :=
  (wordNameText.splitOn ",").map fun names => names.splitOn " "
where
  wordNameText : String :=
    String.join
      ["CR,DQ Double_Quote,EB E_Base,EBG E_Base_GAZ,EM E_Modifier,EX ExtendNumLet,Extend,FO Form",
       "at,GAZ Glue_After_Zwj,HL Hebrew_Letter,KA Katakana,LE ALetter,LF,MB MidNumLet,ML MidLett",
       "er,MN MidNum,NL Newline,NU Numeric,RI Regional_Indicator,SQ Single_Quote,WSegSpace,XX Ot",
       "her,ZWJ"]

def wordRuns : String :=
  String.join
    ["IVAUAMBQAARVAUAVABDVATDVAPAVANAVJRAOAPEVZLDVAFAVZLJVAQZVAUIVALBVAHGVALAVAOBVALEVWLAV+LAVo-",
     "LFVbBLdPGELAVBLBVDLAPALFVALAOCLAVALAVTLAVcSLAVeKLAVGGfFLAVbFLBVDLAVALAObILAPALFVbMGAVAGAVB",
     "GAVBGAVAGHV6JDVDJALAOKVFHFVBPBVKGAVAHCVbKLUGJRAVARAPAVBLAGdCLAVALGGAHAVFGBLBGAVDGBLJRCLBVA",
     "LOVAHALAG9L6GBVcYLKGALNVJRbALIGBLBVAPAVALBVAGBVVLDGALIGALCGALEGRVYLCGDVKLEVXLAVFLAVBHFVHGb",
     "JLXGAHbAGbVLCGALRGALGGJLBGBVJRAVPLCGAVHLBVBLBVVLAVGLAVALCVDLBVAGALGGBVBGBVCGALHVAGDVBLAVCL",
     "BGBVJRBLJVALAVAGBVCGAVFLDVBLBVVLAVGLAVBLAVBLAVBLBVAGAVEGDVBGBVCGCVAGGVDLAVALGVJRBGCLAGKVCG",
     "AVILAVCLAVVLAVGLAVBLAVELBVAGALHGAVCGAVCGBVALOVBLBGBVJRIVALFGAVCGAVHLBVBLBVVLAVGLAVBLAVELBV",
     "AGALGGBVBGBVCGGVCGDVBLAVCLBGBVJRAVALPVAGALAVFLCVCLAVDLCVBLAVALAVBLCVBLCVCLCVLLDVEGCVCGAVDG",
     "BVALFVAGNVJRPVEGHLAVCLAVWLAVPLBVAGALGGAVCGAVDGGVBGAVCLBVALBVBLBGBVJRPVALCGAVHLAVCLAVWLAVJL",
     "AVELBVAGALGGAVCGAVDGGVBGFVBLAVBLBGBVJRAVBLAGLVDGILAVCLAVbILBGALGGAVCGAVDGALEVCLAGGVCLBGBVJ",
     "RJVFLAVCGAVRLCVXLAVILAVALBVGLCVAGDVFGAVAGAVHGFVJRBVBGb8VAGBVGGLVHGAVJRcWVAGBVIGKVGGAVJRbFV",
     "ALWVBGFVJRKVAGAVAGAVAGDVBGHLAVbDLDVTGAVBGELKGAVbDGIVAGdDVTGAVJRLVDGDVCGAVCGBVGGCVDGMVLGAVA",
     "GJRDGBVbFLAVALEVALBVbKLAVkMLAVDLBVGLAVALAVDLBVbILAVDLBVbALAVDLBVGLAVALAVDLBVOLAVbYLAVDLBVc",
     "CLBVCG-VPLPVcVLBVFLCVtLLBVQLAUZLEVcKLCVKLGVRLDGIVSLCGKVRLBGLVMLAVCLAVBGb-V-GIVAGBVJRbAVCGA",
     "HAGJRFVcYLGVELBGbBLAGALEVcFLJV+LAVLGDVLGJVJRd-VJRbFVWLEGbYVJGAV8GBVAGJRFVJRVV+GbQVEGbOLQGH",
     "LCVJRQVIGLVCG9LMGBLJRbLLNGLVbDLTGHVJRCVCLJRbDLBVILGVbKLBVCLPVCGAVUGDLAGFLAGBLCGALEVf-Lb-Gi",
     "VLBVFLBVbFLBVFLBVHLAVALAVALAVALAV+LBVbULAVGLAVALCVCLAVGLCVDLBVFLDVMLEVCLAVGLCVKUAVAGAWBHHV",
     "BNJVANBVAOBQEHAFOVBFCVAPOVAFJVAUEHAVJHAVALMVALPVMLbSVbAGQVALDVALBVJLAVALCVELFVALAVALAVALAV",
     "DLAVKLBVDLEVELDVALQVbILzMVbTLbyVVhELFVDLCGBLLVbFLAVALEVALBVbXLGVALOVAGWLIVGLAVGLAVGLAVGLAV",
     "GLAVGLAVGLAVGLAV-GbOVALoPVAUDVALbDVFGAVEKEVBLc7VBGBKCVc6KAVDKEVbKLAVc9LQV-LbPVPKgPVbOKAVcX",
     "K1fHVbeMLcCVbNLBViMLCVPLJRBLTVbOLDGAVJGAV+LBGcPLBGVVgCLEVBLAVALAVELXVPLAGCLAGDLAGWLEGDVAGS",
     "VbTLLVBGbRLRGJVJRFVRGFLCVALAVBLAGJR7LHGBVWLMGLV8LCVDGbOLNGNVALJRKVAGJVJRFVbILNGIVCLAGHLBGB",
     "VJRbAVCGbRVAGAVCGBVBGEVBGAVAG9VKLEGBVCLBGJVFLBVFLBVFLIVGLAVGLAVbZLFVdSLHGAVBGBVJRFVk3DLLVW",
     "LDVbQLiyDVGLLVELEVAJAGJJAVMJAVEJAVAJAVBJAVBJAVJJdBLbAVlKLRVb-LBVbVLbHVLLDVPGAPBVAOAPKVPGCV",
     "BFXVCFAPAVANAVAPAOZVELAVeGLBVAHGVANDVAPAVANAVJRAOAPEVZLDVAFAVZLKVbXKBG+LCVFLBVFLBVFLBVCL7V",
     "CHDVLLAVZLAVSLAVBLAVOLBVNLbBVd6LcEVbULeHVAGeBV8LCVbQLOVAG+V-LMV9LEVbFLEGEV9LBVbDLDVHLAVELb",
     "JVe9LBVJRFVbDLDVbDLDVbHLHVbTLLVKLAVOLAVGLAVBLAVKLAVOLAVGLAVBLcCVjWLIVVLJVHLXVFLAVbJLAVILcE",
     "VFLBVALAVbLLAVBLCVALBVWLJVWLIV+LcAVSLAVBLJVVLJVZLcFVbXLFVBLb-VALCGAVBGEVDGDLAVCLAV8LBVCGDV",
     "AG-V8LCV8LbCVHLAV7LBGYVbVLJVVLJVSLMVRLdNVcILbWVbSLMVbSLMVbDLDGHVJRkFVbJLAVBGCVBLcKVCG8LJVA",
     "LHVVLKG+VRLDGbJVUL6VWLIVCGbULOG+VJRAGBLBGALIVDGbMLKGBVAHDVAGJVAHBVYLGVJRFVCGbDLNGAVJRDVALB",
     "GALHVbCLAGBVALIVCGbPLNGDLDVDGAVBGJRALAVALbCVRLAVYLLGFVAGBLAGb9VGLAVALAVDLAVOLAVJLGVbOLLGEV",
     "JRFVDGAVHLBVBLBVVLAVGLAVBLAVELAVBGALGGBVBGBVCGBVALFVAGEVELBGBVGGCVEGeKVbULRGDLEVJRDVAGCL9V",
     "bPLTGBLAVALHVJRfFVbOLGGBVIGWVDLBGbBVbPLQGCVALKVJRbFVbKLMGALGVJRcSVOGDVJRgFVbLLOGdEVb-LJRUV",
     "HLBVALBVHLAVBLAVXLFGAVBGBVDGALAGALBGLVJRcFVHLBVbGLGGBVGGALAVALAG6VALJGbHLGGALDGHVAGHVALKGb",
     "NLPGCVALRVcILiGVILAVbELHGAVHGALOVJRXV9LBVVGAVNGcIVGLAVBLAVbFLFGCVAGAVBGAVGGALAGHVJRFVFLAVB",
     "LAV-LEGAVBGAVEGALGVJRjVVSLDGIVBGALAGMLAVbBLGGCVEGMVJRcVVALcOV2ZLdFVdOLQVgDLcsLVdALOVbbPLPH",
     "AGFLOGd3JVsGLinYVrYLGV+LAVJRFVcOLAVJRFV9LBVEGKVbPLGGIVDLLVJRIVULEVSLvPVb-Ld-VcKLDVAGALbWGG",
     "VDGMLb-VBLAVALAGKVBGp59VDKAVGKAVBKAVAKi+VCKbRVAKNVDKcuXVdKLEVMLCVILGVJLCVBGAVDHes7VbNGBVWG",
     "q9VEGCVFGHHHGBVGG9VDGeTVCGn6VcULAVcGLAVBLBVALBVBLBVDLAVLLAVALAVGLAVcALAVDLBVHLAVGLAV7LAVDL",
     "AVELAVALCVGLAVkTLBVYLAVYLAV+LAVYLAV+LAVYLAV+LAVYLAV+LAVYLAVHLBVbRRp-VbWGDVbRGHVAGNVAGVVEGA",
     "VOGbcPV+LFVFLgUVGGAVQGBVGGAVBGAVEGEVb9LbAVAGdPVbMLCVGGGLBVJRDVALkAV9LAGQVbLLDGJRoVV7LDGJRx",
     "FVGLAVDLAVBLAVOLAVgELKVGGbIVcDLGGALDVJRbfFVDLAV6LAVBLAVALBVALAVJLAVDLAVALAVALFVALDVALAVALA",
     "VALAVCLAVBLAVALBVALAVALAVALAVALAVALAVBLAVALBVDLAVGLAVDLAVDLAVALAVJLAVQLEVCLAVELAVQLtTVZLFV",
     "ZLFVZLc7VZSp6VEGb5PVJRybaGVAH9Vc-Gd-VhPGf5qPV"]

def sentenceNames : List (List String) :=
  (sentenceNameText.splitOn ",").map fun names => names.splitOn " "
where
  sentenceNameText : String :=
    String.join
      ["AT ATerm,CL Close,CR,EX Extend,FO Format,LE OLetter,LF,LO Lower,NU Numeric,SC SContinue,",
       "SE Sep,SP Sp,ST STerm,UP Upper,XX Other"]

def sentenceRuns : String :=
  String.join
    ["IOALAGBLACROALAMABDOCBBOBJAAAOJIAJDOAMAOZNABAOABCOZHABAOABGOAKZOALIOAHABAOAEGOAHDOAHABDOWN",
     "AOGNXHAOHHANAHANAHANAHANAHANAHANAHANAHANAHANAHANAHANAHANAHANAHANAHANAHANAHANAHANAHANAHANAH",
     "ANAHANAHANAHANAHANAHANAHANAHANBHANAHANAHANAHANAHANAHANAHANAHANBHANAHANAHANAHANAHANAHANAHAN",
     "AHANAHANAHANAHANAHANAHANAHANAHANAHANAHANAHANAHANAHANAHANAHANAHANAHBNAHANAHANCHBNAHANAHBNAH",
     "CNBHDNAHBNAHCNCHBNAHBNAHANAHANAHBNAHANBHANAHBNAHCNAHANAHBNBHAFANCHDFBNAHBNAHBNAHANAHANAHAN",
     "AHANAHANAHANAHANAHANBHANAHANAHANAHANAHANAHANAHANAHANAHANBHBNAHANAHCNAHANAHANAHANAHANAHANAH",
     "ANAHANAHANAHANAHANAHANAHANAHANAHANAHANAHANAHANAHANAHANAHANAHANAHANAHANAHANAHANAHANAHANAHAN",
     "AHANGHBNAHBNBHANAHDNAHANAHANAHANAHANcEHAFbDHGFBHDOLFNOEHGOAFAOAFQOdPDANAHANAHAFAOANAHBODHA",
     "OANFOANAOCNAOANAOBNAHQNAOINbCHANBHCNCHANAHANAHANAHANAHANAHANAHANAHANAHANAHANAHANAHANEHANAH",
     "AOANAHBNBHbSNbPHANAHANAHANAHANAHANAHANAHANAHANAHANAHANAHANAHANAHANAHANAHANAHANAHANAHAOGDAN",
     "AHANAHANAHANAHANAHANAHANAHANAHANAHANAHANAHANAHANAHANAHANAHANAHANAHANAHANAHANAHANAHANAHANAH",
     "ANAHANAHANAHANAHBNAHANAHANAHANAHANAHANAHANBHANAHANAHANAHANAHANAHANAHANAHANAHANAHANAHANAHAN",
     "AHANAHANAHANAHANAHANAHANAHANAHANAHANAHANAHANAHANAHANAHANAHANAHANAHANAHANAHANAHANAHANAHANAH",
     "ANAHANAHANAHANAHANAHANAHANAHANAHANAHANAHANAHANAHANAHANAHAObFNBOAFCOAJBObIHAMGObMDAOADAOBDA",
     "OBDAOADHO6FDOEFLOFEFOBJBOKDAOAECMbKFUDJIAOBIAOBFADdCFAMAFGDAEAOFDBFBDAODDBFJICFBOAFCMLOAEA",
     "FAD9F6DBOcYFKDAFNOJIbAFIDBFBOAJAMAFBOADBOVFDDAFIDAFCDAFEDIOAMAOAMCOBMAOYFCDDOKFEOXFAOFFAOB",
     "EFOHDbJFXDAEbADbVFCDAFRDAFGDJFBDBMJIAOPFCDAOHFBOBFBOVFAOGFAOAFCODFBOADAFGDBOBDBOCDAFHOADDO",
     "BFAOCFBDBOJIBFJOAFAOADBOCDAOFFDOBFBOVFAOGFAOBFAOBFAOBFBOADAOEDDOBDBOCDCOADGODFAOAFGOJIBDCF",
     "ADKOCDAOIFAOCFAOVFAOGFAOBFAOEFBOADAFHDAOCDAOCDBOAFOOBFBDBOJIIOAFFDAOCDAOHFBOBFBOVFAOGFAOBF",
     "AOEFBOADAFGDBOBDBOCDGOCDDOBFAOCFBDBOJIAOAFPOADAFAOFFCOCFAODFCOBFAOAFAOBFCOBFCOCFCOLFDOEDCO",
     "CDAODDBOAFFOADNOJIPOEDHFAOCFAOWFAOPFBOADAFGDAOCDAODDGOBDAOCFBOAFBOBFBDBOJIPOAFCDAOHFAOCFAO",
     "WFAOJFAOEFBOADAFGDAOCDAODDGOBDFOBFAOBFBDBOJIAOBFADLODDIFAOCFAObIFBDAFGDAOCDAODDAFEOCFADGOC",
     "FBDBOJIJOFFAOCDAORFCOXFAOIFAOAFBOGFCOADDOFDAOADAOHDFOJIBOBDMObPFADBFGDEOGFHDAOJIbGOBFAOAFA",
     "OEFAOXFAOAFAOJFADBFIDAFBOEFAOAFAOGDAOJIBODF-OAFWOBDFOJIKOADAOADAOADDBBDHFAObDFDOTDAOBDEFKD",
     "AObDDIOADbYObKFTDAFJIBMDOFFDDDFCDAFCDBFGDCFDDMFLDAFADJIDDBObFNAOANEOANBObKFAOAHkLFAODFBOGF",
     "AOAFAODFBObIFAODFBObAFAODFBOGFAOAFAODFBOOFAObYFAODFBOcCFBOCDBOAMDOBMWOPFPOcVNBOFHCOtLFAOAM",
     "QFALZFBBCOcKFCOKFGORFDDIOSFCDBMIORFBDLOMFAOCFAOBDLObTF-DCOAFDOAFADBOJIXOAJAMDOAJAMAOCDAEAD",
     "JIFOcYFGOEFBDbBFADAFEOcFFJO+FAOLDDOLDHOBMJI9FBOEFKObLFDOZFFOJIbFOWFEDDObUFJDAO8DBOADJIFOJI",
     "MOAFDMDO+DbQOEDbOFQDHFCOJIBMBOBMKOIDIOBMAOCD9FMDBFJIbLFNDLObDFTDCOBMCOJICOCFJIbDFBMIHGObKF",
     "BOCFPOCDAOUDDFADFFADBFCDAFEOf-Hb-DANAHANAHANAHANAHANAHANAHANAHANAHANAHANAHANAHANAHANAHANAH",
     "ANAHANAHANAHANAHANAHANAHANAHANAHANAHANAHANAHANAHANAHANAHANAHANAHANAHANAHANAHANAHANAHANAHAN",
     "AHANAHANAHANAHANAHANAHANAHANAHANAHANAHANAHANAHANAHANAHANAHANAHANAHANAHANAHANAHANAHANAHANAH",
     "ANAHANAHANAHANAHANAHANAHANAHANAHANAHANAHANAHANAHANAHANAHANAHANIHANAHANAHANAHANAHANAHANAHAN",
     "AHANAHANAHANAHANAHANAHANAHANAHANAHANAHANAHANAHANAHANAHANAHANAHANAHANAHANAHANAHANAHANAHANAH",
     "ANAHANAHANAHANAHANAHANAHANAHANAHANAHANAHANAHANAHANAHANAHANAHANAHANAHANAHANAHANIHHNFHBOFNBO",
     "HHHNHHHNFHBOFNBOHHAOANAOANAOANAOANHHHNNHBOHHHNHHHNHHHNEHAOBHENAOAHCOCHAOBHENCODHBOBHDNDOHH",
     "ENEOCHAOBHENCOKLAEBDBECOBJCOHBDOAACOBKEEALIOBBAOBMGOBBCMUOALEEAOJEAOAHKOBBAHMOBBAOMHbSObAD",
     "QOANDOANBOAHCNBHCNAHAOANCOENFOANAOANAOANAODNAOAHDNAHDFAHBOBHBNEOANDHDOAHQOPNPHCFANAHDFl+OD",
     "B8OBBmKOZNZHtQOFBGONBcOOBB+OJBmSOVBb+ODB-OBBqBObPNbPHANAHCNBHANAHANAHANAHDNAHANBHANHHCNAHA",
     "NAHANAHANAHANAHANAHANAHANAHANAHANAHANAHANAHANAHANAHANAHANAHANAHANAHANAHANAHANAHANAHANAHANA",
     "HANAHANAHANAHANAHANAHANAHANAHANAHANAHANAHANAHANAHANAHANAHANAHANAHANAHANAHANAHANAHANAHANAHA",
     "NAHANAHANAHANBHFOANAHANAHCDANAHLObFHAOAHEOAHBObXFGOAFOOADWFIOGFAOGFAOGFAOGFAOGFAOGFAOGFAOG",
     "FAO-DNBNOBBBOJBDOAMAFLOAMEOABPOBMHBnCOALAJAMBOCFJBBOHBAOCBAOIFFDAOEFBOEFDOcVFBOBDBOCFAOcZF",
     "AODFEObKFAOc9FQO-FbPOPFp-Ogn-Fb-OvuMFcCObNFAOAMiMFAOBMPFJIBFTOANAHANAHANAHANAHANAHANAHANAH",
     "ANAHANAHANAHANAHANAHANAHANAHANAHANAHANAHANAHANAHANAHANAHANAHANAHAFDDAOJDAOAFANAHANAHANAHAN",
     "AHANAHANAHANAHANAHANAHANAHANAHANAHANAHANCHBDcPFBDAOAMCOAM+OIFBOANAHANAHANAHANAHANAHANAHANC",
     "HANAHANAHANAHANAHANAHANAHANAHANAHANAHANAHANAHANAHANAHANAHANAHANAHANAHANAHANAHANAHANAHANAHA",
     "NAHANAHANAHANAHANAHANAHANAHANAHANJHANAHANAHBNAHANAHANAHANAHANAHAFBOANAHANAHAFANAHANCHANAHA",
     "NAHANAHANAHANAHANAHANAHANAHANAHANAHENAHENAHANAHANAHANAHANAHANAHANAHANAHDNAHANAHEOANAHAOAHA",
     "OAHANAHANAHXOCHANAHAFCHGFADCFADDFADWFEDDOADSObTFBOBMHOBDbRFRDHOBMJIFORDFFCOAFAOBFADJI7FHDA",
     "OAMWFMDLO8FCODDbOFNDGOBMEOAFJIFOEFADJFJIEFAObIFNDIOCFADHFBDBOJICOCMWFCOAFCDbRFADAFCDBFBDEF",
     "BDAFADAFXOCFBOKFEDBMCFBDJOFFBOFFBOFFIOGFAOGFAObKHAONHFOcPHbCFHDAMBDBOJIFOk3DFLOWFDObQFiiDO",
     "lNFBOdJFbFOGHLOEHEOAFADJFAOMFAOEFAOAFAOBFAOBFAOdLFbAOlKFBBPOb-FBObVFbHOLFDOPDBJAOAJCOBBGOP",
     "DAOBJBOPBBOBBGOBJAABOAJBMAJFBDOAJLOEFAOeGFBOAEAOAMFOBBBOBJAAAOJIAJDOAMAOZNABAOABCOZHABAOAB",
     "AOBBAMBBAJAObXFBD+FCOFFBOFFBOFFBOCF7OCEDOLFAOZFAOSFAOBFAOOFBONFbBOd6FcEObUFeHOADeBO8FCObQF",
     "OOAD+O-FMO9FEObFFEDEO9FBObDFDOHFAOEFbJObHNbHHcNFBOJIFObDNDObDHDObHFHObTFLOKNAOONAOGNAOBNAO",
     "KHAOOHAOGHAOBHcCOjWFIOVFJOHFXOAHBFCHAObJHAOIHcEOFFBOAFAObLFAOBFCOAFBOWFJOWFIO+FcAOSFAOBFJO",
     "VFJOZFcFObXFFOBFb-OAFCDAOBDEODDDFAOCFAO8FBOCDDOADVOBMHO8FCO8FbCOHFAO7FBDYObVFJOVFJOSFMORFd",
     "NOcIFbWObSNMObSHMObDFDDHOJIkFObJFAOBDCOBFcKOCD8FJOAFHOVFKDDOEMVORFDDDMbFOUF6OWFIOCDbUFODBM",
     "8OJIADBFBDAFIODDbMFKDBOAEDMADJOAEBOYFGOJIFOCDbDFNDAOJIAOCMAFBDAFHObCFADBOAFIOCDbPFNDDFBMBO",
     "DDAMBDJIAFAOAFAOBM-ORFAOYFLDBMAOBMAOADBFADb9OGFAOAFAODFAOOFAOJFAMFObOFLDEOJIFODDAOHFBOBFBO",
     "VFAOGFAOBFAOEFAOBDAFGDBOBDBOCDBOAFFOADEOEFBDBOGDCOEDeKObUFRDDFBMCOJIDOADCF9ObPFTDBFAOAFHOJ",
     "IfFObOFGDBOIDAOBMEOOMDFBDbBObPFQDBMAOAFKOJIbFObKFMDAFGOJIbVO6FBOODDOJIBOCMAOGFfYObLFODdEO-",
     "N-HJIUOHFBOAFBOHFAOBFAOXFFDAOBDBODDAFADAFBDAMAOAMIOJIcFOHFBObGFGDBOGDAFAOAFAD6OAFJDbHFGDAF",
     "DDCOBMCOADHOAFKDbNFPDAOBMAFROcIFiGOIFAObEFHDAOHDAFBMMOJIXO9FBOVDAONDcIOGFAOBFAObFFFDCOADAO",
     "BDAOGDAFADHOJIFOFFAOBFAO-FEDAOBDAOEDAFGOJIjVOSFDDBMGOBDAFADMFAObBFGDCOEDBMKOJIcVOAFcOO2ZFd",
     "FOdOFQOgDFcsLOdAFOObbPFPEADFFODd3JOsGFinYOrYFGO+FAOJIDOBMcOFAOJIFO9FBOEDAMJObPFGDBMGODFAMK",
     "OJIIOUFEOSFvPO-N-HXOAMdGOcKFDOADAFbWDGODDMFb-OBFAOAFADKOBDNOf5XFHObgVFbJOIFixGODFAOGFAOBFA",
     "OjCFOOAF8OCFBOAFNODFHOmLFciDOdKFEOMFCOIFGOJFCOBDAMDEes7ObNDBOWDq9OEDCOFDHEHDBOGD9ODDeTOCDn",
     "6OZNZHZNGHAORHZNZHANAOBNBOANBOBNBODNAOHNDHAOAHAOGHAOKHZNZHBNAODNBOHNAOGNAOZHBNAODNAOENAOAN",
     "COGNAOZHZNZHZNZHZNZHZNZHZNZHZN7HBOYNAOYHAOFHYNAOYHAOFHYNAOYHAOFHYNAOYHAOFHYNAOYHAOFHANAHBO",
     "bRIp-ObWDDObRDHOADNOADCOAMROEDAOODbcPOJHAFTHFOFHgUOGDAOQDBOGDAOBDAOEDEOb9HbAOADdPObMFCOGDG",
     "FBOJIDOAFkAO9FADQObLFDDJIoVO7FDDJIxFOGFAODFAOBFAOOFAOgEFKOGDbIObBNbBHGDAFDOJIbfFODFAO6FAOB",
     "FAOAFBOAFAOJFAODFAOAFAOAFFOAFDOAFAOAFAOAFAOCFAOBFAOAFBOAFAOAFAOAFAOAFAOAFAOBFAOAFBODFAOGFA",
     "ODFAODFAOAFAOJFAOQFEOCFAOEFAOQFtTOZNFOZNFOZNbhLOCBblWOJIbaFObjw-F-OebZFFOg9FBOfuBFNOhjQFda",
     "+Oq9FbpBOe0KFEOec-FvxcQOAE9Oc-Dd-OhPDf5qPO"]

def withPlace (runText : String) (places : Nat -> Bool) : CharSet :=
  CharSet.ofSorted ((runs (numbers runText.toList) 0).filterMap fun (low, high, place) =>
    if places place then some (low, high) else none)

end FleetSearch.Unicode
