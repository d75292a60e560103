import FleetSearch.Search.Cutoff
import FleetSearch.Search.Ending

set_option autoImplicit false

/-!
One page request over repositories in their order, as a machine of small steps.

A launcher takes permits and spawns the probe workers in order, one for each permit. A worker makes
its call when its turn comes; when the call has ended it sends its report and gives its permit back.
The run receives reports until the cutoff is settled or a probe has failed; then it closes the
limiter, waits for the launcher and fetches the matches below the cutoff, and a reaper opens the
gates of the probes that report late. Every repository that was launched has a gate, and gives
itself back once the gate is open.

`Run.next` is what happens by itself; calls end by `endProbe` and `endFetch`, and a request is given
up by `abort`.
-/

namespace FleetSearch.Search

/-- Where a repository of the range stands. A payload and the gate that keeps its repository
borrowed have one owner at a time: a message, the run or a fetch worker. -/
inductive Seat (P : Type) where
  | waiting
  -- the worker is there and holds a permit, and has not made its call yet
  | spawned
  -- the probe executes, and its worker holds a permit
  | probing
  -- the report is in the mailbox
  | reported (report : Except String (Finding P))
  -- a match that the run keeps
  | held (payload : P)
  -- the fetch executes
  | fetching (payload : P)
  -- the result is in the mailbox
  | fetched (result : Except String Harvest)
  -- the gate is open
  | freed
  | released
  -- the probe worker died
  | lost
deriving Inhabited

namespace Seat

variable {P : Type}

def isSpawned : Seat P -> Bool
  | .spawned => true
  | _ => false

def isProbing : Seat P -> Bool
  | .probing => true
  | _ => false

def hasPermit : Seat P -> Bool
  | .spawned => true
  | .probing => true
  | _ => false

def isHeld : Seat P -> Bool
  | .held _ => true
  | _ => false

def isFetching : Seat P -> Bool
  | .fetching _ => true
  | _ => false

def isFreed : Seat P -> Bool
  | .freed => true
  | _ => false

def isBusy : Seat P -> Bool
  | .waiting => false
  | .released => false
  | .lost => false
  | _ => true

def fetch : Seat P -> Seat P
  | .held payload => .fetching payload
  | s => s

-- What becomes of a seat when the owner of its gate goes away.

def freeHeld : Seat P -> Seat P
  | .held _ => .freed
  | s => s

def freeReported : Seat P -> Seat P
  | .reported _ => .freed
  | s => s.freeHeld

def freeFetched : Seat P -> Seat P
  | .fetched _ => .freed
  | s => s

end Seat

inductive Phase where
  | deciding
  -- it is known how the search goes on, and the limiter is still open
  | decided (failure : Option Failure)
  -- waits for the launcher
  | closing (failure : Option Failure)
  -- waits for the probes that still execute
  | draining (failure : Failure)
  | fetching (dispatched : List Nat) (harvests : List (Nat × Harvest)) (failure : Option Failure)
  -- waits for the reaper
  | failing (failure : Failure)
  | done (outcome : Except Failure Page)
  | aborted
deriving Inhabited

-- What repositories see of a run. Indices count from the start of the range.
inductive Event (P : Type) where
  | probe (index : Nat)
  | fetch (index : Nat) (payload : P)
  | release (index : Nat)
deriving DecidableEq

structure Request where
  query : String
  options : Options := {}
  -- repositories to skip
  offset : Nat := 0
  -- matching repositories to fetch
  limit : Nat
deriving DecidableEq, Inhabited

structure Run (P : Type) where
  request : Request
  -- the range that is searched, and how many repositories lie before it
  names : List String
  offset : Nat
  -- the limit that the page proposes for the one after it
  nextLimit : Nat
  seats : List (Seat P)
  cutoff : Cutoff
  -- the workers that were spawned
  launched : Nat := 0
  launching : Bool := true
  -- the launcher has a permit and has not spawned the worker for it yet
  holding : Bool := false
  permits : Nat
  -- no permit is given any more
  closed : Bool := false
  -- the probes whose report waits, first come first
  reports : List Nat := []
  -- somebody receives the reports
  listening : Bool := true
  reaping : Bool := false
  -- the fetches whose result waits
  results : List Nat := []
  phase : Phase := .deciding
deriving Inhabited

namespace Run

variable {P : Type}

-- A range without repositories, or a page without room, needs no search.
def start (repos : List String) (request : Request) (maxProbes nextLimit : Nat) : Run P :=
  let offset := min request.offset repos.length
  let names := repos.drop offset
  let run : Run P :=
    { request, names, offset, nextLimit
      seats := List.replicate names.length .waiting
      cutoff := Cutoff.start names.length request.limit
      permits := min names.length maxProbes }
  if names.isEmpty || request.limit = 0 then
    { run with
      launching := false
      closed := true
      listening := false
      phase := .done (.ok { nextOffset := offset, otherRepos := names.length, nextLimit }) }
  else run

def seat (r : Run P) (i : Nat) : Seat P :=
  r.seats[i]?.getD .waiting

def put (r : Run P) (i : Nat) (s : Seat P) : Run P :=
  { r with seats := r.seats.set i s }

def nameOf (r : Run P) (i : Nat) : String :=
  r.names[i]?.getD ""

def isProbing (r : Run P) (i : Nat) : Bool := (r.seat i).isProbing

def isFetching (r : Run P) (i : Nat) : Bool := (r.seat i).isFetching

def isSilent (r : Run P) : Bool :=
  !r.launching && !r.seats.any Seat.hasPermit

def tasks (r : Run P) : Nat :=
  (if r.launching then 1 else 0) + r.seats.countP Seat.isBusy + r.seats.countP Seat.isFetching
    + (if r.reaping then 1 else 0)

-- Without a listener the report is dropped, and its gate with it.
def endProbe (r : Run P) (i : Nat) (ending : Ending (Finding P)) : Run P :=
  if r.isProbing i then
    let r := { r with permits := r.permits + 1 }
    match ending.report? .probe with
    | none => r.put i .lost
    | some report =>
      if r.listening then { r.put i (.reported report) with reports := r.reports ++ [i] }
      else r.put i .freed
  else r

def isFetchPhase : Phase -> Bool
  | .fetching _ _ _ => true
  | _ => false

-- A result that nobody receives, or a worker that dies, drops the gate.
def endFetch (r : Run P) (i : Nat) (ending : Ending Harvest) : Run P :=
  if r.isFetching i then
    match ending.report? .fetch with
    | none => r.put i .freed
    | some result =>
      if isFetchPhase r.phase then
        { r.put i (.fetched result) with results := r.results ++ [i] }
      else r.put i .freed
  else r

def release? (r : Run P) : Option (Run P × List (Event P)) :=
  (r.seats.findIdx? Seat.isFreed).map fun i => (r.put i .released, [.release i])

def launch? (r : Run P) : Option (Run P × List (Event P)) :=
  if !r.launching then none
  else if r.holding then
    some ({ r.put r.launched .spawned with holding := false, launched := r.launched + 1 }, [])
  else if r.closed || r.names.length <= r.launched then some ({ r with launching := false }, [])
  else
    match r.permits with
    | 0 => none
    | permits + 1 => some ({ r with permits, holding := true }, [])

def call? (r : Run P) : Option (Run P × List (Event P)) :=
  (r.seats.findIdx? Seat.isSpawned).map fun i => (r.put i .probing, [.probe i])

def decide (r : Run P) (failure : Option Failure) : Run P :=
  { r with phase := .decided failure }

def close (r : Run P) (failure : Option Failure) : Run P :=
  { r with closed := true, phase := .closing failure }

def record (r : Run P) (i : Nat) (found : Bool) : Run P :=
  let r := { r with cutoff := r.cutoff.record i found }
  if r.cutoff.settled then r.decide none else r

def receive (r : Run P) (i : Nat) : Run P :=
  match r.seat i with
  | .reported (.error message) => (r.put i .freed).decide (some (.probe (r.nameOf i) message))
  | .reported (.ok finding) =>
    (r.put i (if finding.found then .held finding.payload else .freed)).record i finding.found
  | _ => r

def receive? (r : Run P) : Option (Run P) :=
  match r.reports with
  | i :: rest => some (receive { r with reports := rest } i)
  | [] =>
    if r.isSilent then some (r.decide (some (.workerLost (r.nameOf r.cutoff.firstOpen))))
    else none

def reap? (r : Run P) (finish : Run P -> Run P) : Option (Run P) :=
  match r.reports with
  | i :: rest => some ({ r with reports := rest }.put i .freed)
  | [] => if r.isSilent then some (finish { r with listening := false }) else none

def chosen (r : Run P) : List Nat :=
  ((List.range r.cutoff.firstOpen).filter fun i => (r.seat i).isHeld).take r.request.limit

def fetchEvent (r : Run P) (i : Nat) : List (Event P) :=
  match r.seat i with
  | .held payload => [.fetch i payload]
  | _ => []

def dispatch (r : Run P) : Run P × List (Event P) :=
  let kept := r.seats.take r.cutoff.firstOpen
  let excess := r.seats.drop r.cutoff.firstOpen
  let events := r.chosen.flatMap r.fetchEvent
  let r := { r with phase := .fetching r.chosen [] none, reaping := true }
  ({ r with seats := kept.map Seat.fetch ++ excess.map Seat.freeHeld }, events)

def proceed (r : Run P) (failure : Option Failure) : Run P × List (Event P) :=
  match failure with
  | some failure =>
    ({ r with seats := r.seats.map Seat.freeHeld, phase := .draining failure }, [])
  | none => r.dispatch

def resultOf (r : Run P) (harvest : Nat × Harvest) : RepoResult where
  repo := r.nameOf harvest.1
  matched := harvest.2.matched
  filesWithMatch := harvest.2.filesWithMatch
  revision := harvest.2.revision

def page (r : Run P) (harvests : List (Nat × Harvest)) : Page where
  results := harvests.map r.resultOf
  filesOpened := (harvests.map fun h => h.2.filesOpened).foldr (· + ·) 0
  reposScanned := r.launched
  nextOffset := r.offset + r.cutoff.firstOpen
  otherRepos := r.names.length - r.cutoff.firstOpen
  nextLimit := r.nextLimit

def insertHarvest (i : Nat) (h : Harvest) : List (Nat × Harvest) -> List (Nat × Harvest)
  | [] => [(i, h)]
  | (j, other) :: rest =>
    if i < j then (i, h) :: (j, other) :: rest else (j, other) :: insertHarvest i h rest

def lostFetch? (r : Run P) (dispatched : List Nat) (harvests : List (Nat × Harvest)) :
    Option Failure :=
  (dispatched.find? fun i => (harvests.lookup i).isNone).map fun i => .workerLost (r.nameOf i)

-- An error that was received goes before a worker that reported nothing.
def conclude (r : Run P) (dispatched : List Nat) (harvests : List (Nat × Harvest))
    (failure : Option Failure) : Run P :=
  match failure.or (r.lostFetch? dispatched harvests) with
  | some failure => { r with phase := .failing failure }
  | none => { r with phase := .done (.ok (r.page harvests)) }

def collect? (r : Run P) (dispatched : List Nat) (harvests : List (Nat × Harvest))
    (failure : Option Failure) : Option (Run P) :=
  match r.results with
  | i :: rest =>
    let next := { r with results := rest }.put i .freed
    match r.seat i with
    | .fetched (.ok harvest) =>
      some { next with phase := .fetching dispatched (insertHarvest i harvest harvests) failure }
    | .fetched (.error message) =>
      some { next with
        phase := .fetching dispatched harvests (failure.or (some (.fetch (r.nameOf i) message))) }
    | _ => some next
  | [] =>
    if r.seats.any Seat.isFetching then none else some (r.conclude dispatched harvests failure)

def quiet (r : Option (Run P)) : Option (Run P × List (Event P)) :=
  r.map fun r => (r, [])

def advance? (r : Run P) : Option (Run P × List (Event P)) :=
  match r.phase with
  | .deciding => quiet r.receive?
  | .decided failure => some (r.close failure, [])
  | .closing failure => if r.launching then none else some (r.proceed failure)
  | .draining failure => quiet (r.reap? fun r => { r with phase := .done (.error failure) })
  | .fetching dispatched harvests failure => quiet (r.collect? dispatched harvests failure)
  | .failing failure =>
    if r.reaping then none else some ({ r with phase := .done (.error failure) }, [])
  | .done _ => none
  | .aborted => none

def reaper? (r : Run P) : Option (Run P × List (Event P)) :=
  if r.reaping then quiet (r.reap? fun r => { r with reaping := false }) else none

-- The run looks at a report before the launcher uses the permit that came free with it.
def next (r : Run P) : Option (Run P × List (Event P)) :=
  r.release? <|> r.advance? <|> r.reaper? <|> r.call? <|> r.launch?

def settleFrom : (fuel : Nat) -> Run P -> List (Event P) -> Run P × List (Event P)
  | 0, r, events => (r, events)
  | fuel + 1, r, events =>
    match r.next with
    | none => (r, events)
    | some (r, more) => settleFrom fuel r (events ++ more)

-- Every repository is launched, called, received, fetched and released at most once, and a run
-- changes its phase at most seven times.
def mostSteps (r : Run P) : Nat :=
  10 * r.seats.length + 18

/-- Goes on until only calls that execute can change anything. -/
def settle (r : Run P) : Run P × List (Event P) :=
  settleFrom r.mostSteps r []

/-- Whoever gave up owns no gate any more. A launcher goes on, and fetches and the reaper end by
themselves. -/
def abort (r : Run P) : Run P :=
  match r.phase with
  | .done _ => r
  | .aborted => r
  -- a run is dropped where it waits, and here it goes straight on
  | .decided _ => r
  | .fetching _ _ _ =>
    { r with seats := r.seats.map Seat.freeFetched, results := [], phase := .aborted }
  | .failing _ => { r with phase := .aborted }
  | _ =>
    { r with
      seats := r.seats.map Seat.freeReported, reports := [], listening := false, phase := .aborted }

def outcome? (r : Run P) : Option (Except Failure Page) :=
  match r.phase with
  | .done outcome => some outcome
  | _ => none

end Run

end FleetSearch.Search
