set_option autoImplicit false

/-!
A closeable pool of permits. Whoever asks while none is free waits in order of arrival; a permit
that comes back goes to the head of the queue.
-/

namespace FleetSearch.Search

inductive Acquirer where
  | waiting
  | held
  | released
  | cancelled
  | refused
deriving DecidableEq, Inhabited

structure Permits where
  available : Nat
  closed : Bool := false
  -- those who wait, first come first
  queue : List Nat := []
  acquirers : List Acquirer := []
deriving DecidableEq, Inhabited

structure TooManyPermits where
  wanted : Nat
deriving DecidableEq

namespace Permits

-- A pool counts its permits in all but three bits of a word.
def most : Nat := Nat.pow 2 61 - 1

def start (permits : Nat) : Except TooManyPermits Permits :=
  let permits := max permits 1
  if permits <= most then .ok { available := permits } else .error { wanted := permits }

def stateOf (p : Permits) (id : Nat) : Option Acquirer :=
  p.acquirers[id]?

def mark (p : Permits) (id : Nat) (state : Acquirer) : Permits :=
  { p with acquirers := p.acquirers.set id state }

def acquire (p : Permits) : Permits :=
  let id := p.acquirers.length
  if p.closed then { p with acquirers := p.acquirers ++ [.refused] }
  else if p.available = 0 then
    { p with queue := p.queue ++ [id], acquirers := p.acquirers ++ [.waiting] }
  else { p with available := p.available - 1, acquirers := p.acquirers ++ [.held] }

def release (p : Permits) (id : Nat) : Permits :=
  if p.stateOf id = some .held then
    let p := p.mark id .released
    match p.queue with
    | [] => { p with available := p.available + 1 }
    | next :: rest => { p with queue := rest }.mark next .held
  else p

def cancel (p : Permits) (id : Nat) : Permits :=
  if p.stateOf id = some .waiting then
    { p with queue := p.queue.filter (· != id) }.mark id .cancelled
  else p

def close (p : Permits) : Permits :=
  { p with
    closed := true
    queue := []
    acquirers := p.acquirers.map fun a => if a = .waiting then .refused else a }

end Permits

def TooManyPermits.message (_ : TooManyPermits) : String :=
  "a semaphore may not have more than MAX_PERMITS permits (" ++ toString Permits.most ++ ")"

end FleetSearch.Search
