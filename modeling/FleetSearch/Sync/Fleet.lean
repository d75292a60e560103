import FleetSearch.Checkout.Basic
import FleetSearch.Search.Permits
import FleetSearch.Sync.Wait

set_option autoImplicit false

/-!
The checkouts and the syncs that go on over them. A sync waits for one of the permits, first come
first served, then for its tree; then it works, and its end is told by `finish`. A permit comes back
with every outcome.
-/

namespace FleetSearch

namespace Sync

inductive Outcome where
  | synced (revision : String)
  | failed (message : String)
  -- the tree was held all the time, at last by so many probes
  | deferred (outstanding : Nat)
deriving DecidableEq, Inhabited

inductive Stage where
  | queued
  | waiting (wait : Wait)
  | working
  | done (outcome : Outcome)
deriving DecidableEq, Inhabited

inductive Asker where
  | caller
  | update
  | poller (k : Nat)
deriving DecidableEq, Inhabited

structure Job where
  repo : Nat
  asker : Asker
  stage : Stage
deriving DecidableEq, Inhabited

def Job.isDue (j : Job) (now : Nat) : Bool :=
  match j.stage with
  | .waiting w => w.isDue now
  | _ => false

def Job.isWorking (j : Job) : Bool :=
  j.stage == .working

def Job.isDone (j : Job) : Bool :=
  match j.stage with
  | .done _ => true
  | _ => false

def Job.due? (j : Job) : Option Nat :=
  match j.stage with
  | .waiting w => some w.due
  | _ => none

end Sync

open Sync

structure Fleet where
  checkouts : List Checkout
  -- free permits
  permits : Nat
  now : Nat := 0
  jobs : List Job := []
  -- the jobs that wait for a permit, first come first
  queue : List Nat := []
deriving DecidableEq, Inhabited

namespace Fleet

def start (checkouts : List Checkout) (maxSyncs : Nat) :
    Except Search.TooManyPermits Fleet := do
  let permits <- Search.Permits.start maxSyncs
  return { checkouts, permits := permits.available }

def checkout? (f : Fleet) (i : Nat) : Option Checkout :=
  f.checkouts[i]?

def names (f : Fleet) : List String :=
  f.checkouts.map Checkout.name

def indexOf? (f : Fleet) (name : String) : Option Nat :=
  f.checkouts.findIdx? fun c => c.name == name

def change (f : Fleet) (i : Nat) (g : Checkout -> Checkout) : Fleet :=
  { f with checkouts := f.checkouts.modify i g }

def changeTree (f : Fleet) (i : Nat) (g : Tree -> Tree) : Fleet :=
  f.change i fun c => { c with tree := g c.tree }

def setStage (f : Fleet) (k : Nat) (stage : Stage) : Fleet :=
  { f with jobs := f.jobs.modify k fun j => { j with stage } }

def outstanding (f : Fleet) (i : Nat) : Nat :=
  ((f.checkout? i).map fun c => c.tree.readers).getD 0

def borrow (f : Fleet) (i : Nat) : Fleet :=
  f.changeTree i Tree.borrow

def giveBack (f : Fleet) (i : Nat) : Fleet :=
  f.changeTree i Tree.giveBack

def request (f : Fleet) (repo : Nat) (asker : Asker) : Fleet :=
  match f.permits with
  | 0 =>
    { f with
      jobs := f.jobs ++ [{ repo, asker, stage := .queued }]
      queue := f.queue ++ [f.jobs.length] }
  | permits + 1 =>
    { f with jobs := f.jobs ++ [{ repo, asker, stage := .waiting (.start f.now) }], permits }

def freePermit (f : Fleet) : Fleet :=
  match f.queue with
  | [] => { f with permits := f.permits + 1 }
  | k :: rest => { f with queue := rest }.setStage k (.waiting (.start f.now))

def isTreeFree (f : Fleet) (i : Nat) : Bool :=
  ((f.checkout? i).map fun c => c.tree.isFree).getD false

def attempt (f : Fleet) (k : Nat) : Fleet :=
  match f.jobs[k]? with
  | some { repo, stage := .waiting w, .. } =>
    if w.isDue f.now then
      match w.attempt f.now (f.isTreeFree repo) with
      | .taken => (f.changeTree repo Tree.claim).setStage k .working
      | .again w => f.setStage k (.waiting w)
      | .deferred => (f.setStage k (.done (.deferred (f.outstanding repo)))).freePermit
    else f
  | _ => f

def outcomeOf : Except String String -> Outcome
  | .ok revision => .synced revision
  | .error message => .failed message

def finish (f : Fleet) (k : Nat) (result : Except String String) : Fleet :=
  match f.jobs[k]? with
  | some { repo, stage := .working, .. } =>
    let f := f.change repo fun c =>
      { c with tree := c.tree.yield, status := c.status.record f.now result }
    (f.setStage k (.done (outcomeOf result))).freePermit
  | _ => f

def wait (f : Fleet) (t : Nat) : Fleet :=
  { f with now := max f.now t }

def due? (f : Fleet) : Option Nat :=
  f.jobs.findIdx? fun j => j.isDue f.now

def working? (f : Fleet) : Option Nat :=
  f.jobs.findIdx? Job.isWorking

def outcome? (f : Fleet) (k : Nat) : Option Outcome :=
  match f.jobs[k]? with
  | some { stage := .done outcome, .. } => some outcome
  | _ => none

end Fleet

def Sync.Outcome.message (name : String) : Outcome -> String
  | .synced revision => revision
  | .failed message => message
  | .deferred n =>
    "Sync of " ++ name ++ " deferred, " ++ toString n ++ " probes still outstanding"

end FleetSearch
