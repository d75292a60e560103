import FleetSearch.Search.Result

set_option autoImplicit false

namespace FleetSearch.Search

inductive Ending (A : Type) where
  | done (a : A)
  -- the causes, outermost first
  | failed (causes : List String)
  -- the text of the panic, if it carries one
  | panicked (text : Option String)
  -- the worker dies and reports nothing
  | lost
deriving DecidableEq, Inhabited

inductive Call where
  | probe
  | fetch
deriving DecidableEq, Inhabited

def Call.name : Call -> String
  | .probe => "probe"
  | .fetch => "fetch"

def causeLine (causes : List String) : String :=
  ": ".intercalate causes

-- What a worker reports of a call, or none if it is lost. A panic is an error like any other.
def Ending.report? {A : Type} (call : Call) : Ending A -> Option (Except String A)
  | .done a => some (.ok a)
  | .failed causes => some (.error (causeLine causes))
  | .panicked text => some (.error (call.name ++ " panicked: " ++ text.getD "unknown panic"))
  | .lost => none

structure Finding (P : Type) where
  found : Bool
  -- what the second look needs
  payload : P
deriving DecidableEq, Inhabited

inductive Failure where
  | probe (repo message : String)
  | fetch (repo message : String)
  | workerLost (repo : String)
deriving DecidableEq, Inhabited

namespace Failure

def repo : Failure -> String
  | .probe repo _ => repo
  | .fetch repo _ => repo
  | .workerLost repo => repo

def message : Failure -> String
  | .probe repo message => repo ++ ": " ++ message
  | .fetch repo message => repo ++ ": " ++ message
  | .workerLost repo => "search of " ++ repo ++ " ended without reporting a result"

def kind : Failure -> String
  | .probe _ _ => "Probe"
  | .fetch _ _ => "Fetch"
  | .workerLost _ => "WorkerLost"

end Failure

end FleetSearch.Search
