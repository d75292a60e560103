import FleetSearch.Search.Selector
import FleetSearch.Service.Basic

set_option autoImplicit false

/-!
Searches through the checkouts of a service. A probe borrows the tree of its checkout when it
starts, and the checkout comes back when the search releases it.
-/

namespace FleetSearch.Service

open FleetSearch.Checkout FleetSearch.Search

def borrow (s : Service) (i : Nat) : Service :=
  { s with fleet := s.fleet.borrow i }

def giveBack (s : Service) (i : Nat) : Service :=
  let s := if s.fleet.outstanding i = 0 then
      s.write .warn
        ("release_probe for " ++ (s.checkout i).name ++ " without an outstanding probe")
    else s
  { s with fleet := s.fleet.giveBack i }

def probeOf (s : Service) (i : Nat) (query : String) (o : Options) :
    Except ProbeFault (Finding Candidates) :=
  let c := s.checkout i
  Checkout.probe s.volume c.dir c.repo.excludeDotFiles query o

-- Borrows the tree before anything can fail.
def probe (s : Service) (i : Nat) (query : String) (o : Options) :
    Except ProbeFault (Finding Candidates) × Service :=
  (s.probeOf i query o, s.borrow i)

def fetch (s : Service) (i : Nat) (candidates : Candidates) (o : Options) :
    Except GrepFault Harvest :=
  Checkout.fetch s.volume (s.checkout i).revision candidates o

def placeOf (s : Service) (run i : Nat) : Nat :=
  (((s.scopes[run]?).getD [])[i]?).getD s.fleet.checkouts.length

def note (s : Service) (n : Notice Candidates) : Service :=
  match n.event with
  | .probe i => s.borrow (s.placeOf n.run i)
  | .fetch _ _ => s
  | .release i => s.giveBack (s.placeOf n.run i)

def failureOf (s : Service) (run : Nat) : Option Failure :=
  match (s.searches.runs[run]?).bind Run.outcome? with
  | some (.error failure) => some failure
  | _ => none

def follow (s : Service) (run : Nat) (step : Runs Candidates × List (Notice Candidates)) :
    Service :=
  let before := s.failureOf run
  let s := step.2.foldl note { s with searches := step.1 }
  match before, s.failureOf run with
  | none, some failure => s.write .warn ("Search failed: " ++ failure.message)
  | _, _ => s

def namesOf (s : Service) (scope : List Nat) : List String :=
  scope.map fun i => (s.checkout i).name

def beginSearch (s : Service) (scope : List Nat) (request : Request) : Service :=
  let run := s.searches.runs.length
  { s with scopes := s.scopes ++ [scope] }.follow run
    (s.searches.begin (s.namesOf scope) request)

def requestOf (s : Service) (run : Nat) : Request :=
  ((s.searches.runs[run]?).map Run.request).getD default

def probeEnding (s : Service) (c : Started) : Ending (Finding Candidates) :=
  let request := s.requestOf c.run
  match s.probeOf (s.placeOf c.run c.repo) request.query request.options with
  | .ok finding => .done finding
  | .error fault => .failed fault.causes

def payloadOf (s : Service) (c : Started) : Option Candidates :=
  (s.searches.runs[c.run]?).bind fun r =>
    match r.seat (c.repo - r.offset) with
    | .fetching payload => some payload
    | _ => none

def fetchEnding (s : Service) (c : Started) : Ending Harvest :=
  match s.payloadOf c with
  | none => .lost
  | some candidates =>
    match s.fetch (s.placeOf c.run c.repo) candidates (s.requestOf c.run).options with
    | .ok harvest => .done harvest
    | .error fault => .failed ["Fetch task failed", fault.message (s.taskOf c)]

def endCall (s : Service) (c : Started) : Service :=
  match c.call with
  | .probe => s.follow c.run (s.searches.endProbe c (s.probeEnding c))
  | .fetch => s.follow c.run (s.searches.endFetch c (s.fetchEnding c))

def abortSearch (s : Service) (run : Nat) : Service :=
  s.follow run (s.searches.abort run)

def isReadable (request : Request) : Bool :=
  let o := request.options
  (Pattern.compile request.query o.ignoreCase).toBool && (PathFilter.ofOptions o).toBool

def lacksCheckout (s : Service) (c : Started) : Bool :=
  !s.volume.isDir (s.checkout (s.placeOf c.run c.repo)).dir

-- The call that ends next: a probe that fails before it reads files, else the first probe, else the
-- first fetch.
def nextCall? (s : Service) : Option Started :=
  match s.searches.first? .probe with
  | none => s.searches.first? .fetch
  | some c =>
    if isReadable (s.requestOf c.run) then
      ((s.searches.executing .probe).find? s.lacksCheckout).or (some c)
    else some c

def drainFrom : (fuel : Nat) -> Service -> Service
  | 0, s => s
  | fuel + 1, s =>
    match s.nextCall? with
    | none => s
    | some c => drainFrom fuel (s.endCall c)

-- A repository is probed and fetched at most once in a run.
def mostCalls (s : Service) : Nat :=
  2 * (s.searches.runs.map fun r => r.seats.length).foldr (· + ·) 0

def drain (s : Service) : Service :=
  drainFrom s.mostCalls s

/-- Searches the checkouts of `scope` for one page. -/
def search (s : Service) (scope : List Nat) (request : Request) :
    Option (Except Failure Page) × Service :=
  let run := s.searches.runs.length
  let s := (s.beginSearch scope request).drain
  ((s.searches.runs[run]?).bind Run.outcome?, s)

def select (s : Service) (selector : String) : Except Pattern.Refusal (List Nat) :=
  (Selector.read selector).map fun selector => selector.choose s.fleet.names

end FleetSearch.Service
