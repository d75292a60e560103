import FleetSearch.Catalog.Write
import FleetSearch.Service.Search
import FleetSearch.Service.Sync
import FleetSearch.Text.Moment
import FleetSearch.Web.Message
import FleetSearch.Web.Params
import FleetSearch.Web.Routes

set_option autoImplicit false

namespace FleetSearch.Web

open FleetSearch.Json FleetSearch.Search

def standardContext : Nat := 2
def longestContext : Nat := 20

def readContext (s : String) : Nat :=
  match Text.Count.parse? (Text.trim s.toList) with
  | none => standardContext
  | some n => min n longestContext

-- The search that parameters ask for. A limit of zero is the catalog's for a first page.
def Params.request (p : Params) (catalog : Catalog) : Search.Request :=
  let repos := readWindow p.repoWindow
  let files := readWindow p.fileWindow
  { query := p.query
    options :=
      { files := p.files
        excludeFiles := p.excludeFiles
        ignoreCase := readFlag p.ignoreCase
        context := readContext p.context
        offset := files.offset
        limit := files.limit }
    offset := repos.offset
    limit := orDefault repos.limit catalog.firstPage }

def statsValue (p : Page) : Value :=
  .object [("FilesOpened", .count p.filesOpened), ("ReposScanned", .count p.reposScanned),
    ("Duration", .count 0)]

def pageValue (stats : Bool) (p : Page) : Value :=
  .object ([("Results", .list (p.results.map RepoResult.toValue))]
    ++ (if stats then [("Stats", statsValue p)] else [])
    ++ [("ReposPagination", .object [("NextOffset", .count p.nextOffset),
      ("OtherRepos", .count p.otherRepos), ("NextLimit", .count p.nextLimit)])])

-- A search that fails is answered like one that succeeds.
def searchError (message : String) : Response :=
  .failure 200 message

def searchAnswer (s : Service) (query : String) : Response × Service :=
  let p := Params.ofPairs (Form.pairs query)
  match s.select p.repos with
  | .error refusal => (searchError ("Invalid repos pattern: " ++ refusal.message), s)
  | .ok scope =>
    let (outcome, s) := s.search scope (p.request s.catalog)
    match outcome with
    | some (.ok page) => (.json (pageValue (readFlag p.stats) page), s)
    | some (.error failure) => (searchError failure.message, s)
    | none => (searchError "", s)

-- The clock counts milliseconds from `epoch` on.
def Status.toValue (epoch : Nat) (s : Status) : Value :=
  .object [("Revision", Value.ofOption .text s.revision),
    ("SyncedAt", Value.ofOption (fun t => .text (Text.momentText (epoch + 1000000 * t))) s.syncedAt),
    ("Error", Value.ofOption .text s.error)]

def checkoutValue (epoch : Nat) (c : Checkout) : Value :=
  .object (c.repo.members ++ [("status", Status.toValue epoch c.status)])

def reposAnswer (s : Service) : Response :=
  .json (Value.object (s.fleet.checkouts.map fun c => (c.name, checkoutValue s.epoch c))).sorted

def unknownRepo (name : String) : Response :=
  .failure 404 ("No such repository: " ++ name)

def excludesAnswer (s : Service) (query : String) : Response :=
  match Form.only? (Form.pairs query) "repo" with
  | none => .refusal 400 "Failed to deserialize query string: duplicate field `repo`"
  | some name =>
    match s.fleet.indexOf? name with
    | none => unknownRepo name
    | some i =>
      let c := s.checkout i
      .json (.list ((Checkout.walk s.volume c.dir c.repo.excludeDotFiles).excluded.map
        Checkout.Excluded.toValue))

def formType : String := "application/x-www-form-urlencoded"

def updateTargets (s : Service) (selector : String) : Except Response (List Nat) := do
  let selector := Text.trimmed selector
  let targets <-
    if selectsAll selector then pure s.allCheckouts
    else
      ((commaNames selector).filter fun name => !name.isEmpty).mapM fun name =>
        match s.fleet.indexOf? name with
        | some i => Except.ok i
        | none => Except.error (unknownRepo name)
  match targets.find? fun i => !(s.checkout i).repo.acceptsPush with
  | some i =>
    throw (.failure 403 ("Push updates are not enabled for repository " ++ (s.checkout i).name))
  | none => return targets

def updateAnswer (s : Service) (r : Request) : Response × Service :=
  if !r.contentType.startsWith formType then
    (.refusal 415 ("Form requests must have `Content-Type: " ++ formType ++ "`"), s)
  else
    match Form.only? (Form.pairs r.body) "repos" with
    | none => (.refusal 422 "Failed to deserialize form body: duplicate field `repos`", s)
    | some selector =>
      match updateTargets s selector with
      | .error response => (response, s)
      | .ok targets =>
        (.json (.text "ok"), targets.foldl (fun s i => s.requestSync i .update) s)

def handle (h : Handler) (s : Service) (r : Request) : Response × Service :=
  match h with
  | .search => searchAnswer s r.query
  | .repos => (reposAnswer s, s)
  | .update => updateAnswer s r
  | .excludes => (excludesAnswer s r.query, s)
  | .health => ({ body := .text "ok" }, s)

def handlerOf (e : Endpoint) (method : String) : Option Handler :=
  if method = "GET" || method = "HEAD" then e.get
  else if method = "POST" then e.post
  else none

def answer (routes : Routes) (s : Service) (r : Request) : Response × Service :=
  match routes.endpoint? r.path with
  | none => (.notFound, s)
  | some e =>
    match handlerOf e r.method with
    | none => (.notAllowed e.allowed, s)
    | some h =>
      let (response, s) := handle h s r
      ({ response with bare := r.method == "HEAD" }, s)

end FleetSearch.Web
