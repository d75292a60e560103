import FleetSearch.Catalog.Read
import FleetSearch.Disk.Volume

set_option autoImplicit false

namespace FleetSearch

open FleetSearch.Disk

inductive LoadFault where
  | unreadable (path : String) (fault : Disk.Fault)
  | invalid (path : String) (fault : CatalogFault)

def LoadFault.message : LoadFault -> String
  | .unreadable path fault => "Failed to read " ++ path ++ ": " ++ fault.message
  | .invalid path fault => "Invalid config " ++ path ++ ": " ++ fault.message

-- A relative checkout directory starts where the file lies.
def Catalog.ofFile (v : Volume) (path : String) : Except LoadFault Catalog :=
  match v.readText path with
  | .error fault => .error (.unreadable path fault)
  | .ok text =>
    match Catalog.parse text with
    | .error fault => .error (.invalid path fault)
    | .ok c =>
      if Path.isAbsolute c.checkouts then .ok c
      else .ok { c with checkouts := Path.join ((Path.parent path).getD ".") c.checkouts }

structure Environment where
  configPath : Option String := none
  bindAddress : Option String := none
  checkouts : Option String := none
  maxProbes : Option String := none
deriving Inhabited

def Environment.configVariable : String := "REPO_HOUND_CONFIG"
def Environment.bindVariable : String := "REPO_HOUND_BIND_ADDR"
def Environment.checkoutsVariable : String := "REPO_HOUND_DB_PATH"
def Environment.probesVariable : String := "REPO_HOUND_MAX_CONCURRENT_SEARCHERS"

def Environment.probeLimit (e : Environment) : Option Nat :=
  (e.maxProbes.bind fun s => Text.Count.parse? s.toList).filter (0 < ·)

def Catalog.override (c : Catalog) (e : Environment) : Catalog :=
  { c with
    bindAddress := e.bindAddress.getD c.bindAddress
    checkouts := e.checkouts.getD c.checkouts
    maxProbes := e.probeLimit.getD c.maxProbes }

def Catalog.load (v : Volume) (e : Environment) : Except LoadFault Catalog := do
  let path := e.configPath.getD "config.json"
  let c <- if v.isPresent path then Catalog.ofFile v path else pure {}
  return c.override e

end FleetSearch
