import FleetSearch.Text.Blank
import FleetSearch.Text.Count

set_option autoImplicit false

namespace FleetSearch.Web

open FleetSearch.Text

structure Params where
  query : String := ""
  repos : String := ""
  repoWindow : String := ""
  fileWindow : String := ""
  files : String := ""
  excludeFiles : String := ""
  ignoreCase : String := ""
  context : String := ""
  stats : String := ""
deriving DecidableEq, Inhabited

def Params.set (p : Params) (key value : String) : Params :=
  match key with
  | "q" => { p with query := value }
  | "repos" => { p with repos := value }
  | "rngRepos" => { p with repoWindow := value }
  | "rng" => { p with fileWindow := value }
  | "files" => { p with files := value }
  | "excludeFiles" => { p with excludeFiles := value }
  | "i" => { p with ignoreCase := value }
  | "ctx" => { p with context := value }
  | "stats" => { p with stats := value }
  | _ => p

-- The pairs are taken in from the last one to the first, so that a key that is repeated keeps its
-- first value.
def Params.ofPairs (pairs : List (String × String)) : Params :=
  pairs.foldr (fun pair p => p.set pair.1 pair.2) {}

def flagWords : List String := ["true", "1", "fosho"]

def readFlag (s : String) : Bool :=
  flagWords.any fun word => isWord word (trim s.toList)

structure Window where
  offset : Nat
  limit : Nat
deriving DecidableEq, Inhabited

def readSide (s : List Char) : Nat :=
  (Count.parse? (trim s)).getD 0

-- Reads `offset:limit`, split at the first colon. A side that is no count is zero.
def readWindow (s : String) : Window :=
  match s.toList.span (· != ':') with
  | (before, _ :: after) => { offset := readSide before, limit := readSide after }
  | (_, []) => { offset := 0, limit := 0 }

structure EmptyRange where
  low : Nat
  high : Nat
deriving DecidableEq

def EmptyRange.message (e : EmptyRange) : String :=
  "min > max. min = " ++ toString e.low ++ ", max = " ++ toString e.high

def readCountWithin (low high fallback : Nat) (s : String) : Except EmptyRange Nat :=
  match Count.parse? (trim s.toList) with
  | none => .ok fallback
  | some n =>
    if high < low then .error { low, high }
    else .ok (max low (min n high))

end FleetSearch.Web
