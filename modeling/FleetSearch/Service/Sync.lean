import FleetSearch.Git.Sync
import FleetSearch.Search.Ending
import FleetSearch.Service.Basic

set_option autoImplicit false

/-!
Syncs of a service and the time that they take. Nothing else takes time: whatever can go on does so
before the clock moves to the next attempt or the next poll.
-/

namespace FleetSearch.Service

open FleetSearch.Sync

def shortRevision (revision : String) : String :=
  if revision.isEmpty then "(no revision)" else String.ofList (revision.toList.take 12)

def requestSync (s : Service) (i : Nat) (asker : Asker) : Service :=
  { s with fleet := s.fleet.request i asker }

def rest (s : Service) (asker : Asker) : Service :=
  match asker with
  | .poller k =>
    { s with
      pollers := s.pollers.modify k fun p => { p with due := some (s.fleet.now + p.period) } }
  | _ => s

def conclude (s : Service) (k : Nat) : Service :=
  match s.fleet.jobs[k]? with
  | some { repo, asker, stage := .done outcome } =>
    let name := (s.checkout repo).name
    let s := match outcome with
      | .synced revision =>
        s.write .info ("Synced " ++ name ++ " at " ++ shortRevision revision)
      | outcome =>
        match asker with
        | .caller => s
        | .update => s.write .error ("Failed to sync " ++ name ++ ": " ++ outcome.message name)
        | .poller _ =>
          s.write .warn ("Poll of " ++ name ++ " failed: " ++ outcome.message name)
    s.rest asker
  | _ => s

def attempt (s : Service) (k : Nat) : Service :=
  { s with fleet := s.fleet.attempt k }.conclude k

def work (s : Service) (k : Nat) : Service :=
  match s.fleet.jobs[k]? with
  | none => s
  | some job =>
    let c := s.checkout job.repo
    let report := Git.sync s.volume c.repo.url c.dir
    let s := { s with volume := report.volume }
    let s := report.notes.foldl (fun s text => s.write .info text) s
    let result := report.result.mapError fun fault => Search.causeLine fault.causes
    { s with fleet := s.fleet.finish k result }.conclude k

def isPollDue (s : Service) (p : Poller) : Bool :=
  p.due.any (· <= s.fleet.now)

def poll (s : Service) : Service :=
  match s.pollers.findIdx? s.isPollDue with
  | none => s
  | some k =>
    match s.pollers[k]? with
    | none => s
    | some p =>
      { s with pollers := s.pollers.set k { p with due := none } }.requestSync p.repo (.poller k)

def step? (s : Service) : Option Service :=
  if s.pollers.any s.isPollDue then some s.poll
  else
    match s.fleet.due? with
    | some k => some (s.attempt k)
    | none => s.fleet.working?.map s.work

def settleFrom : (fuel : Nat) -> Service -> Service
  | 0, s => s
  | fuel + 1, s =>
    match s.step? with
    | none => s
    | some s => settleFrom fuel s

-- In an instant every poller starts one sync at most, and every job tries for its tree and works
-- once at most.
def mostSteps (s : Service) : Nat :=
  2 * s.fleet.jobs.length + 3 * s.pollers.length + 1

def settle (s : Service) : Service :=
  settleFrom s.mostSteps s

def nextTimer? (s : Service) : Option Nat :=
  (s.fleet.jobs.filterMap Job.due? ++ s.pollers.filterMap Poller.due).min?

def wait (s : Service) (t : Nat) : Service :=
  { s with fleet := s.fleet.wait t }

def runFrom (stop : Service -> Bool) (target : Nat) : (fuel : Nat) -> Service -> Service
  | 0, s => s
  | fuel + 1, s =>
    let s := s.settle
    if stop s then s
    else
      match s.nextTimer? with
      | none => s.wait target
      | some t =>
        if t <= target then runFrom stop target fuel (s.wait t) else s.wait target

-- Lets time pass up to `target`, or until `stop` holds. Between two instants at which something
-- happens there is a millisecond at least.
def runTo (s : Service) (target : Nat) (stop : Service -> Bool := fun _ => false) : Service :=
  runFrom stop target (target - s.fleet.now + 2) s

def advance (s : Service) (millis : Nat) : Service :=
  s.runTo (s.fleet.now + millis)

def openJobs (s : Service) : Nat :=
  s.fleet.jobs.countP fun j => !j.isDone

-- Waits until `stop` holds. The jobs that are open now have all come to their end when each of them
-- has waited as long as it may.
def await (s : Service) (stop : Service -> Bool) : Service :=
  s.runTo (s.fleet.now + s.openJobs * longestWaitMillis) stop

def sync (s : Service) (i : Nat) : Option Outcome × Service :=
  let k := s.fleet.jobs.length
  let s := (s.requestSync i .caller).await fun s => (s.fleet.outcome? k).isSome
  (s.fleet.outcome? k, s)

def startPollers (s : Service) : Service :=
  let pollers := s.fleet.checkouts.zipIdx.filterMap fun (c, i) =>
    if c.repo.url.isSome && c.repo.polls then
      let period := c.repo.pollMillis
      some { repo := i, period, due := some (s.fleet.now + period) : Poller }
    else none
  { s with pollers := s.pollers ++ pollers }

inductive LaunchFault where
  | checkouts (fault : Disk.Fault)
  | permits (fault : Search.TooManyPermits)

def keepReady (s : Service) : Service :=
  let outcomes := s.fleet.checkouts.zipIdx.map fun (c, k) => (c, (s.fleet.outcome? k).getD default)
  let ready := outcomes.filterMap fun
    | (c, .synced _) => some c
    | _ => none
  let s := outcomes.foldl (fun s (c, outcome) =>
    match outcome with
    | .synced _ => s
    | outcome =>
      s.write .error
        ("Dropping " ++ c.name ++ " from the search set: " ++ outcome.message c.name)) s
  let s :=
    if ready.length < s.catalog.repos.length then
      s.write .warn "Some repos failed to index, see output above"
    else s.write .info ("All " ++ toString ready.length ++ " repos ready")
  { s with fleet := { s.fleet with checkouts := ready, jobs := [] } }

/-- A service over the repositories of a catalog whose first sync succeeds. -/
def launch (catalog : Catalog) (volume : Disk.Volume) : Except LaunchFault Service := do
  let volume <- (volume.makeDirs catalog.checkouts).mapError .checkouts
  let s <- (start catalog volume).mapError .permits
  let s := s.allCheckouts.foldl (fun s i => s.requestSync i .caller) s
  return (s.await fun s => s.openJobs = 0).keepReady

end FleetSearch.Service
