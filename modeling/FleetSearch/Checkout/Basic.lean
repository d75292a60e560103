import FleetSearch.Catalog.Basic

set_option autoImplicit false

/-!
A checkout: a working tree that any number of probes borrow or one sync writes, and what is known
of its syncs.
-/

namespace FleetSearch

structure Tree where
  -- probes that hold the tree
  readers : Nat := 0
  -- probes that wait for a writer to end
  blocked : Nat := 0
  writing : Bool := false
deriving DecidableEq, Inhabited

namespace Tree

def isFree (t : Tree) : Bool :=
  !t.writing && t.readers == 0

def borrow (t : Tree) : Tree :=
  if t.writing then { t with blocked := t.blocked + 1 } else { t with readers := t.readers + 1 }

def giveBack (t : Tree) : Tree :=
  { t with readers := t.readers - 1 }

def claim (t : Tree) : Tree :=
  { t with writing := true }

def yield (t : Tree) : Tree where
  readers := t.readers + t.blocked

end Tree

/-- The last sync that succeeded, and how the last one failed if that was later. -/
structure Status where
  revision : Option String := none
  syncedAt : Option Nat := none
  error : Option String := none
deriving DecidableEq, Inhabited

def Status.record (s : Status) (now : Nat) : Except String String -> Status
  | .ok revision => { revision := some revision, syncedAt := some now, error := none }
  | .error message => { s with error := some message }

structure Checkout where
  repo : Repo
  dir : String
  tree : Tree := {}
  status : Status := {}
deriving DecidableEq, Inhabited

namespace Checkout

def name (c : Checkout) : String := c.repo.name

def revision (c : Checkout) : String := c.status.revision.getD ""

end Checkout

end FleetSearch
