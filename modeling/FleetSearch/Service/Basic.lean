import FleetSearch.Checkout.Scan
import FleetSearch.Search.Runs
import FleetSearch.Sync.Fleet

set_option autoImplicit false

/-!
The service: checkouts on a volume, the syncs and the searches over them, and a log.
-/

namespace FleetSearch

inductive Level where
  | info
  | warn
  | error
deriving DecidableEq, Inhabited

def Level.name : Level -> String
  | .info => "INFO"
  | .warn => "WARN"
  | .error => "ERROR"

structure Entry where
  level : Level
  text : String
deriving DecidableEq, Inhabited

structure Poller where
  repo : Nat
  period : Nat
  -- when the next sync starts, or none while one goes on
  due : Option Nat
deriving DecidableEq, Inhabited

structure Service where
  catalog : Catalog
  volume : Disk.Volume
  fleet : Fleet
  -- when the clock of the fleet stood at zero, in nanoseconds since the beginning of 1970
  epoch : Nat := 0
  searches : Search.Runs Checkout.Candidates
  -- the checkouts that each search goes through
  scopes : List (List Nat) := []
  pollers : List Poller := []
  -- the number that the runtime gives to the task of a fetch
  taskOf : Search.Started -> Nat := fun _ => 0
  -- newest first
  log : List Entry := []
deriving Inhabited

namespace Service

def ofCheckouts (catalog : Catalog) (volume : Disk.Volume) (checkouts : List Checkout) :
    Except Search.TooManyPermits Service := do
  let fleet <- Fleet.start checkouts catalog.maxSyncs
  let searches := Search.Runs.idle catalog.maxProbes catalog.nextPage
  return { catalog, volume, fleet, searches }

def checkoutsOf (catalog : Catalog) : List Checkout :=
  catalog.repos.map fun repo => { repo, dir := catalog.directory repo }

def start (catalog : Catalog) (volume : Disk.Volume) : Except Search.TooManyPermits Service :=
  ofCheckouts catalog volume (checkoutsOf catalog)

def write (s : Service) (level : Level) (text : String) : Service :=
  { s with log := { level, text } :: s.log }

def takeLog (s : Service) : List Entry × Service :=
  (s.log.reverse, { s with log := [] })

def checkout (s : Service) (i : Nat) : Checkout :=
  (s.fleet.checkout? i).getD default

def allCheckouts (s : Service) : List Nat :=
  List.range s.fleet.checkouts.length

end Service

end FleetSearch
