set_option autoImplicit false

/-!
A one-shot gate between whoever owns a probe's payload and the worker that borrowed the
repository. The worker resumes when the gate fires or is dropped.
-/

namespace FleetSearch.Search

inductive Gate where
  | shut
  | fired
  | dropped
deriving DecidableEq, Inhabited

inductive Waiter where
  -- nobody has started to wait
  | idle
  | waiting
  | resumed
  -- dropped before anybody waited
  | dropped
deriving DecidableEq, Inhabited

structure GatePair where
  gate : Gate := .shut
  waiter : Waiter := .idle
deriving DecidableEq, Inhabited

namespace GatePair

def wake (p : GatePair) : GatePair :=
  if p.waiter = .waiting then { p with waiter := .resumed } else p

def fire (p : GatePair) : Option Bool × GatePair :=
  match p.gate with
  | .shut => (some true, { p with gate := .fired }.wake)
  | .fired => (some false, p)
  | .dropped => (none, p)

def dropGate (p : GatePair) : Option Bool × GatePair :=
  match p.gate with
  | .dropped => (none, p)
  | _ => (some true, { p with gate := .dropped }.wake)

def dropWaiter (p : GatePair) : Option Bool × GatePair :=
  match p.waiter with
  | .idle => (some true, { p with waiter := .dropped })
  | _ => (none, p)

def wait (p : GatePair) : Option Bool × GatePair :=
  match p.waiter with
  | .idle => (some true, { p with waiter := if p.gate = .shut then .waiting else .resumed })
  | _ => (none, p)

def fired? (p : GatePair) : Option Bool :=
  match p.gate with
  | .shut => some false
  | .fired => some true
  | .dropped => none

end GatePair

end FleetSearch.Search
