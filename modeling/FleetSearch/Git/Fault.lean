import FleetSearch.Disk.Volume
import FleetSearch.Git.History

set_option autoImplicit false

namespace FleetSearch.Git

inductive Fault where
  | notRepository (path : String)
  | noRemote
  | noTransport
  | unborn (name : String)
  | brokenRef (name : String)
  | missingObject (id : Id)
  | badPath (path : String)
  | noWorktree
  | disk (fault : Disk.Fault)
deriving DecidableEq

def Fault.label (area : String) (code : String := "") : String :=
  "; class=" ++ area ++ (if code.isEmpty then "" else "; code=" ++ code)

def Fault.message : Fault -> String
  | .notRepository path =>
    "could not find repository at '" ++ path ++ "'" ++ label "Repository (6)" "NotFound (-3)"
  | .noRemote => "remote 'origin' does not exist" ++ label "Config (7)" "NotFound (-3)"
  | .noTransport => "unsupported URL protocol" ++ label "Net (12)"
  | .unborn name =>
    "reference '" ++ name ++ "' not found" ++ label "Reference (4)" "UnbornBranch (-9)"
  | .brokenRef name => "corrupted loose reference file: " ++ name ++ label "Reference (4)"
  | .missingObject id =>
    "object not found - no match for id (" ++ id ++ ")" ++ label "Odb (9)" "NotFound (-3)"
  | .badPath path => "cannot checkout to invalid path '" ++ path ++ "'" ++ label "Checkout (20)"
  | .noWorktree =>
    "cannot checkout. This operation is not allowed against bare repositories."
      ++ label "Repository (6)" "BareRepo (-8)"
  | .disk fault => fault.message

inductive SyncFault where
  | noCheckout (dir : String)
  | parent (dir : String) (fault : Disk.Fault)
  | clone (url : String) (fault : Fault)
  | opening (dir : String) (fault : Fault)
  | origin (fault : Fault)
  | fetch (dir : String) (fault : Fault)
  | diverged (dir : String)
  | plain (fault : Fault)
deriving DecidableEq

def SyncFault.causes : SyncFault -> List String
  | .noCheckout dir => ["Checkout " ++ dir ++ " does not exist"]
  | .parent dir fault => ["Failed to create " ++ dir, fault.message]
  | .clone url fault => ["Failed to clone " ++ url, fault.message]
  | .opening dir fault => ["Failed to open " ++ dir, fault.message]
  | .origin fault => ["Repository has no origin remote", fault.message]
  | .fetch dir fault => ["Failed to fetch into " ++ dir, fault.message]
  | .diverged dir => ["Local branch in " ++ dir ++ " has diverged from origin"]
  | .plain fault => [fault.message]

end FleetSearch.Git
