import FleetSearch.Git.Config

set_option autoImplicit false

namespace FleetSearch.Git

structure Repository where
  -- references with a file of their own go before packed ones
  loose : List (String × Ref) := []
  -- none if what is written there is no list of references
  packed : Option (List (String × Id)) := some []
  -- objects as they are packed
  objects : List (Id × ByteArray) := []
  settings : Config := []
deriving Inhabited

inductive Target where
  | found (name : String) (id : Id)
  -- the last reference of the chain is not there
  | missing (name : String)
  | broken (name : String)
deriving DecidableEq, Inhabited

namespace Repository

def headName : String := "HEAD"
def branchDir : String := "refs/heads/"
def tagDir : String := "refs/tags/"

def isBranch (name : String) : Bool :=
  branchDir.toList.isPrefixOf name.toList

def ref? (r : Repository) (name : String) : Option Ref :=
  match r.loose.lookup name with
  | some ref => some ref
  | none =>
    match r.packed with
    | none => some .broken
    | some refs => (refs.lookup name).map .direct

def follow (r : Repository) : (hops : Nat) -> (name : String) -> Target
  | hops, name =>
    if !Ref.isName name then .broken name
    else
      match r.ref? name with
      | none => .missing name
      | some (.direct id) => .found name id
      | some .broken => .broken name
      | some (.symbolic next) =>
        match hops with
        | 0 => .broken name
        | hops + 1 => follow r hops next

def mostHops : Nat := 5

def target (r : Repository) (name : String) : Target :=
  r.follow mostHops name

-- Where the checked out branch stands. The step from `HEAD` to the branch does not count.
def head (r : Repository) : Target :=
  r.follow (mostHops + 1) headName

def setEntry {A : Type} (key : String) (value : A) (entries : List (String × A)) :
    List (String × A) :=
  (key, value) :: entries.filter fun e => e.1 != key

def setRef (r : Repository) (name : String) (ref : Ref) : Repository :=
  { r with loose := setEntry name ref r.loose }

def insertName (name : String) : List String -> List String
  | [] => [name]
  | other :: rest =>
    if name < other then name :: other :: rest
    else if name = other then other :: rest
    else other :: insertName name rest

def names (r : Repository) : List String :=
  let loose := (r.loose.map (·.1)).filter (· != headName)
  (loose ++ (r.packed.getD []).map (·.1)).foldr insertName []

def has (r : Repository) (id : Id) : Bool :=
  (r.objects.lookup id).isSome

def object? (r : Repository) (id : Id) : Option Object :=
  (r.objects.lookup id).bind Object.unpack?

def peelFrom (r : Repository) : (fuel : Nat) -> Id -> Option (Id × Commit)
  | 0, _ => none
  | fuel + 1, id =>
    match r.object? id with
    | some (.commit commit) => some (id, commit)
    | some (.tag target) => peelFrom r fuel target
    | _ => none

def peel? (r : Repository) (id : Id) : Option (Id × Commit) :=
  r.peelFrom (r.objects.length + 1) id

def headCommit? (r : Repository) : Option Id :=
  match r.head with
  | .found _ id => (r.peel? id).map (·.1)
  | _ => none

def history (r : Repository) : History :=
  r.objects.filterMap fun (id, packed) =>
    match Object.unpack? packed with
    | some (.commit commit) => some (id, commit.parents)
    | _ => none

def adopt (r : Repository) (objects : List (Id × ByteArray)) : Repository :=
  { r with objects := r.objects ++ objects.filter fun o => !r.has o.1 }

end Repository

end FleetSearch.Git
