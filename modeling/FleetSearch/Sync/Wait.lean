set_option autoImplicit false

/-!
How a sync waits for its working tree: it tries, sleeps and tries again, and never queues, so it
holds back no probe.
-/

namespace FleetSearch.Sync

def retryMillis : Nat := 25
def longestWaitMillis : Nat := 30000

structure Wait where
  -- when the next attempt is made
  due : Nat
  -- an attempt that fails from then on is the last
  deadline : Nat
deriving DecidableEq, Inhabited

namespace Wait

def start (now : Nat) : Wait where
  due := now
  deadline := now + longestWaitMillis

def isDue (w : Wait) (now : Nat) : Bool :=
  w.due <= now

end Wait

inductive Attempt where
  | taken
  | again (wait : Wait)
  | deferred
deriving DecidableEq

def Wait.attempt (w : Wait) (now : Nat) (free : Bool) : Attempt :=
  if free then .taken
  else if w.deadline <= now then .deferred
  else .again { w with due := now + retryMillis }

end FleetSearch.Sync
