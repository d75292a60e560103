import FleetSearch.Catalog.Basic
import FleetSearch.Json.Record

set_option autoImplicit false

namespace FleetSearch

open FleetSearch.Json

def textField : Reader String := Reader.string "a string"
def pathField : Reader String := Reader.string "path string"
def countField : Reader Nat := Reader.count "usize"

def LinkPattern.shape : Shape LinkPattern where
  name := "UrlPattern"
  start := standard
  fields :=
    [known "base-url" textField fun p v => { p with baseUrl := v },
      known "anchor" textField fun p v => { p with anchor := v }]

def Repo.shape : Shape Repo where
  name := "RepoConfig"
  start := { name := "" }
  fields :=
    [needed "name" textField fun r v => { r with name := v },
      known "url" (Reader.optional textField) fun r v => { r with url := v },
      known "path" (Reader.optional pathField) fun r v => { r with path := v },
      known "ms-between-poll" (Reader.count "u64") fun r v => { r with pollMillis := v },
      known "vcs" textField fun r v => { r with vcs := v },
      known "url-pattern" LinkPattern.shape.read fun r v => { r with links := v },
      known "exclude-dot-files" Reader.bool fun r v => { r with excludeDotFiles := v },
      known "enable-poll-updates" (Reader.optional Reader.bool) fun r v => { r with poll := v },
      known "enable-push-updates" (Reader.optional Reader.bool) fun r v => { r with push := v }]

def Catalog.shape : Shape Catalog where
  name := "Config"
  start := { bindAddress := "" }
  fields :=
    [needed "dbpath" pathField fun c v => { c with checkouts := v },
      needed "repos" (Reader.list Repo.shape.read) fun c v => { c with repos := v },
      needed "max-concurrent-indexers" countField fun c v => { c with maxSyncs := v },
      needed "max-concurrent-searchers" countField fun c v => { c with maxProbes := v },
      needed "max-repos-in-first-result" countField fun c v => { c with firstPage := v },
      needed "max-repos-in-next-result" countField fun c v => { c with nextPage := v },
      needed "health-check-uri" textField fun c v => { c with healthPath := v }]

-- A catalog as it is configured: all may be left out, and zero stands for the default.
structure CatalogDraft where
  checkouts : Option String := none
  repos : List Repo := []
  maxSyncs : Nat := 0
  maxProbes : Nat := 0
  firstPage : Nat := 0
  nextPage : Nat := 0
  healthPath : String := ""
deriving DecidableEq, Inhabited

def CatalogDraft.shape : Shape CatalogDraft where
  name := "ConfigFile"
  start := {}
  fields :=
    [known "dbpath" (Reader.optional pathField) fun c v => { c with checkouts := v },
      known "repos" (Reader.list Repo.shape.read) fun c v => { c with repos := v },
      known "max-concurrent-indexers" countField fun c v => { c with maxSyncs := v },
      known "max-concurrent-searchers" countField fun c v => { c with maxProbes := v },
      known "max-repos-in-first-result" countField fun c v => { c with firstPage := v },
      known "max-repos-in-next-result" countField fun c v => { c with nextPage := v },
      known "health-check-uri" textField fun c v => { c with healthPath := v }]

inductive CatalogFault where
  | malformed (fault : Fault) (text : String)
  | nameless
  | duplicate (name : String)
deriving DecidableEq

def CatalogFault.message : CatalogFault -> String
  | .malformed fault text => fault.message text
  | .nameless => "Repo without a name"
  | .duplicate name => "Duplicate repo name: " ++ name

def checkNames : (seen : List String) -> List Repo -> Except CatalogFault Unit
  | _, [] => .ok ()
  | seen, r :: rest =>
    if r.name.isEmpty then .error .nameless
    else if seen.contains r.name then .error (.duplicate r.name)
    else checkNames (r.name :: seen) rest

def CatalogDraft.complete (d : CatalogDraft) : Catalog :=
  let standard : Catalog := {}
  { checkouts := d.checkouts.getD standard.checkouts
    bindAddress := standard.bindAddress
    repos := d.repos.map Repo.filled
    maxSyncs := orDefault d.maxSyncs standard.maxSyncs
    maxProbes := orDefault d.maxProbes standard.maxProbes
    firstPage := orDefault d.firstPage standard.firstPage
    nextPage := orDefault d.nextPage standard.nextPage
    healthPath := textOr d.healthPath standard.healthPath }

def Catalog.parse (text : String) : Except CatalogFault Catalog :=
  match CatalogDraft.shape.read.whole text with
  | .error fault => .error (.malformed fault text)
  | .ok draft => do
    checkNames [] draft.repos
    return draft.complete

end FleetSearch
