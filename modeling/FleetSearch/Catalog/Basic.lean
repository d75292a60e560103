import FleetSearch.Disk.Path

set_option autoImplicit false

namespace FleetSearch

structure LinkPattern where
  baseUrl : String
  anchor : String
deriving DecidableEq, Inhabited

def LinkPattern.standard : LinkPattern where
  baseUrl := "\x7burl\x7d/blob/\x7brev\x7d/\x7bpath\x7d\x7banchor\x7d"
  anchor := "#L\x7bline\x7d"

structure Repo where
  name : String
  -- a repository without an origin is searched in place
  url : Option String := none
  -- the checkout, where it is not the one that the catalog assigns
  path : Option String := none
  pollMillis : Nat := 0
  vcs : String := ""
  links : LinkPattern := LinkPattern.standard
  excludeDotFiles : Bool := false
  poll : Option Bool := none
  push : Option Bool := none
deriving DecidableEq, Inhabited

namespace Repo

def standardPollMillis : Nat := 30000
def standardVcs : String := "git"

def polls (r : Repo) : Bool := r.poll.getD true

def acceptsPush (r : Repo) : Bool := r.push.getD false

end Repo

def orDefault (value default : Nat) : Nat :=
  if value = 0 then default else value

def textOr (value default : String) : String :=
  if value.isEmpty then default else value

def LinkPattern.filled (p : LinkPattern) : LinkPattern where
  baseUrl := textOr p.baseUrl standard.baseUrl
  anchor := textOr p.anchor standard.anchor

def Repo.filled (r : Repo) : Repo :=
  { r with
    pollMillis := orDefault r.pollMillis standardPollMillis
    vcs := textOr r.vcs standardVcs
    links := r.links.filled }

def Repo.named (name : String) : Repo :=
  Repo.filled { name }

structure Catalog where
  -- where checkouts lie that have no path of their own
  checkouts : String := "./data"
  bindAddress : String := "127.0.0.1:6080"
  repos : List Repo := []
  maxSyncs : Nat := 2
  maxProbes : Nat := 1000
  firstPage : Nat := 10
  nextPage : Nat := 30
  healthPath : String := "/healthz"
deriving DecidableEq, Inhabited

def Catalog.directory (c : Catalog) (r : Repo) : String :=
  r.path.getD (Disk.Path.join c.checkouts r.name)

end FleetSearch
