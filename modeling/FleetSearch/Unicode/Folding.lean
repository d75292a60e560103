import FleetSearch.Unicode.Code

set_option autoImplicit false

/-!
Simple case folding, of Unicode 16. Two characters are the same but for their case if they fold
to the same one.
-/

namespace FleetSearch.Unicode

-- Runs of characters at equal steps that fold over the same distance: how far the run starts after
-- the one before, its size less one, the step, and the distance, doubled where it is upward and
-- doubled less one where it is downward.
def foldRuns : String :=
  String.join
    ["cBZBcAdUABbqOLWBcAYGBcAbIXCCbSCCCHHCCRWCCbOABhRBCCCGABqXCABnEBBCCEABm8BABCCBBm6CABCDABe+BA",
     "BmUBABmWBABCCABm6BABm+CABnGBABnCBABCEABnGBABnKCABnMBCCCGABnUBABCCABnUDABCCABnUBABCCBBnSCBC",
     "CEABnWBABCEABCIABEBABCCABEBABCCABEBICCTICCTABEBBCCEABgBBABdPBTCCbIABiDCICCYABvcWBABCCABkFB",
     "ABvcQDABCCABmFBABeKBABeOBECCh-ABhIbLBCCGABCJABhIHABcMCCBcKEABeACBBd+DQBcASIBcA-ABCNABQBABb",
     "7BABbREAB9BABbLCLCCYABdLBABc-DABdXBABd-CABCCABNBABCDCBiDDPBfAQ-BcAcQQCCbK6CCbWAB+BGCCPbPCC",
     "dBbFBdAc1PbFBogAbHABogAGABogAzLFBPceIABme7BABmeZBABmeHBBBmeDCABmeFBABmdXBABmcHBABce2GBABCH",
     "bKBf1-bNCBf1-kDcKCCe7ABdTDABo19CbPCCdIHBPQFBPQHBPQHBPQFBPRDCPPHBPbAHBPQHBPQHBPQBBPCBBeTCAB",
     "RCABoaJKDBfLEABRMBBPCBBgHOBBPCBBg-CABNMBBh-CBBh7CABRjKABovZEABql9BABqeLHABbYbOPBbAbDABCzTZ",
     "BbUb0KbPBdAdAABCCABu5NBABhoLBABu4NDCCCGABvbXBABu5ZBABvb9BABvb7CABCDABCJBBvd9CbRCCdLBCCHABC",
     "4kOWCCcANCCfCGCCQ+CCcHBCCEABcfaHBECCNABCCABcssPDBCCGJCCUABcsuHBABcsu9BABcsuVBABcsuBBABcsuH",
     "CABcsrDBABcssTBABcsrJBABb0ABHCCQABc-BABcsuFBABcfdPBBCCEABcswNBABCEABCGCCCGABcteBZABC17cPBc",
     "l2-u3RZBcAbg-bHBcQfQbDBcQgAKBcOMOBcOQGBcOIBBcObxMbSBeAgQVBcAc0Q-BcAvnA-BcA4wAbBBcE"]

def foldPairs : List (Nat × Nat) :=
  go (numbers foldRuns.toList) 0
where
  go : List Nat -> Nat -> List (Nat × Nat)
  | gap :: size :: step :: distance :: rest, before =>
    let start := before + gap
    let target := fun c =>
      if distance % 2 = 0 then c + distance / 2 else c - (distance + 1) / 2
    ((List.range (size + 1)).map fun i => (start + i * step, target (start + i * step)))
      ++ go rest start
  | _, _ => []

def CharSet.foldClosure (set : CharSet) : CharSet :=
  let targets := foldPairs.filterMap fun (c, f) =>
    if set.holds c || set.holds f then some f else none
  let folded := CharSet.ofRanges (targets.map fun f => (f, f))
  let sources := foldPairs.filterMap fun (c, f) =>
    if folded.holds f then some (c, c) else none
  (set.union folded).union (CharSet.ofRanges sources)

end FleetSearch.Unicode
