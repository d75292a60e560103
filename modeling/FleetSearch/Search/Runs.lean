import FleetSearch.Search.Run

set_option autoImplicit false

namespace FleetSearch.Search

structure Started where
  call : Call
  run : Nat
  repo : Nat
deriving DecidableEq, Inhabited

structure Runs (P : Type) where
  maxProbes : Nat
  nextLimit : Nat
  runs : List (Run P) := []
  -- oldest first
  started : List Started := []
  -- somebody waits until no task is left
  closing : Bool := false
  isShut : Bool := false
deriving Inhabited

structure Notice (P : Type) where
  run : Nat
  event : Event P
deriving DecidableEq

def Event.shift {P : Type} (offset : Nat) : Event P -> Event P
  | .probe i => .probe (offset + i)
  | .fetch i payload => .fetch (offset + i) payload
  | .release i => .release (offset + i)

namespace Runs

variable {P : Type}

def idle (maxProbes nextLimit : Nat) : Runs P :=
  { maxProbes := max maxProbes 1, nextLimit }

def tasks (s : Runs P) : Nat :=
  (s.runs.map Run.tasks).foldr (· + ·) 0

def executes (s : Runs P) (c : Started) : Bool :=
  match s.runs[c.run]? with
  | none => false
  | some r =>
    match c.call with
    | .probe => r.isProbing (c.repo - r.offset)
    | .fetch => r.isFetching (c.repo - r.offset)

def startedBy (n : Notice P) : Option Started :=
  match n.event with
  | .probe i => some { call := .probe, run := n.run, repo := i }
  | .fetch i _ => some { call := .fetch, run := n.run, repo := i }
  | .release _ => none

-- Puts a run that went on in its place. The calls that still execute stay in the order in which
-- they were started.
def replace (s : Runs P) (k : Nat) (r : Run P) (events : List (Event P)) :
    Runs P × List (Notice P) :=
  let notices := events.map fun e => { run := k, event := e.shift r.offset : Notice P }
  let s := { s with runs := s.runs.set k r }
  let s := { s with started := (s.started ++ notices.filterMap startedBy).filter s.executes }
  ({ s with isShut := s.isShut || (s.closing && s.tasks == 0) }, notices)

def settleRun (s : Runs P) (k : Nat) : Runs P × List (Notice P) :=
  match s.runs[k]? with
  | none => (s, [])
  | some r => s.replace k r.settle.1 r.settle.2

def enter (s : Runs P) (repos : List String) (request : Request) : Runs P :=
  { s with runs := s.runs ++ [Run.start repos request s.maxProbes s.nextLimit] }

def begin (s : Runs P) (repos : List String) (request : Request) : Runs P × List (Notice P) :=
  (s.enter repos request).settleRun s.runs.length

def change (s : Runs P) (k : Nat) (f : Run P -> Run P) : Runs P × List (Notice P) :=
  { s with runs := s.runs.modify k f }.settleRun k

def endProbe (s : Runs P) (c : Started) (ending : Ending (Finding P)) :
    Runs P × List (Notice P) :=
  s.change c.run fun r => r.endProbe (c.repo - r.offset) ending

def endFetch (s : Runs P) (c : Started) (ending : Ending Harvest) : Runs P × List (Notice P) :=
  s.change c.run fun r => r.endFetch (c.repo - r.offset) ending

def abort (s : Runs P) (k : Nat) : Runs P × List (Notice P) :=
  s.change k Run.abort

def shutdown (s : Runs P) : Runs P :=
  { s with closing := true, isShut := s.isShut || s.tasks == 0 }

def executing (s : Runs P) (call : Call) : List Started :=
  s.started.filter fun c => c.call = call

def oldest? (s : Runs P) (call : Call) (repo : Nat) : Option Started :=
  s.started.find? fun c => c.call = call && c.repo = repo

def first? (s : Runs P) (call : Call) : Option Started :=
  match ((s.executing call).map Started.repo).min? with
  | none => none
  | some repo => s.oldest? call repo

end Runs

end FleetSearch.Search
