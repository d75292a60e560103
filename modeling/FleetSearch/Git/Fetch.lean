import FleetSearch.Git.Worktree

set_option autoImplicit false

/-!
Taking over references and objects of an origin, a repository on the same volume. References that
the origin has no more stay.
-/

namespace FleetSearch.Git

structure FetchRule where
  source : List Char
  target : Option (List Char)
deriving DecidableEq, Inhabited

namespace FetchRule

-- Reads `source:target`; a plus sign in front changes nothing here.
def read (text : String) : FetchRule :=
  let s := match text.toList with
    | '+' :: rest => rest
    | s => s
  let source := s.takeWhile (· != ':')
  match s.drop source.length with
  | _ :: target => { source, target := if target.isEmpty then none else some target }
  | [] => { source, target := none }

def hasStar (rule : FetchRule) : Bool :=
  rule.source.contains '*'

def starOf? (pattern name : List Char) : Option (List Char) :=
  let before := pattern.takeWhile (· != '*')
  match pattern.drop before.length with
  | [] => if pattern = name then some [] else none
  | _ :: after =>
    if before.isPrefixOf name && after.isSuffixOf (name.drop before.length) then
      some ((name.drop before.length).take (name.length - before.length - after.length))
    else none

def putStar (pattern star : List Char) : List Char :=
  pattern.flatMap fun c => if c = '*' then star else [c]

def matches? (rule : FetchRule) (name : String) : Bool :=
  (starOf? rule.source name.toList).isSome

def targetOf? (rule : FetchRule) (name : String) : Option String := do
  let star <- starOf? rule.source name.toList
  return String.ofList (putStar (<- rule.target) star)

end FetchRule

structure Offer where
  head : Option Id
  refs : List (String × Id)
deriving DecidableEq

def Repository.offer (origin : Repository) : Except Fault Offer := do
  let head <- match origin.head with
    | .found _ id => pure (some id)
    | .missing _ => pure none
    | .broken name => throw (.brokenRef name)
  let refs <- origin.names.mapM fun name =>
    match origin.target name with
    | .found _ id =>
      if Repository.tagDir.toList.isPrefixOf name.toList && !origin.has id then
        throw (.missingObject id)
      else pure (name, id)
    | .missing last => throw (.unborn last)
    | .broken last => throw (.brokenRef last)
  return { head, refs }

-- The references that a rule takes. Tags follow by themselves and do not count.
def Offer.taken (o : Offer) (rule : FetchRule) : List (String × Id) :=
  o.refs.filter fun (name, _) =>
    rule.matches? name && !Repository.tagDir.toList.isPrefixOf name.toList

namespace Repository

mutual

def isWhole (r : Repository) : (fuel : Nat) -> Id -> Bool
  | 0, _ => false
  | fuel + 1, id =>
    match r.object? id with
    | some (.tree entries) => areWhole r fuel entries
    | _ => false
termination_by fuel => (fuel, 0)

def areWhole (r : Repository) (fuel : Nat) : List TreeEntry -> Bool
  | [] => true
  | e :: rest =>
    (match e.kind with
      | .folder => isWhole r fuel e.id
      | .module => true
      | _ => r.has e.id) && areWhole r fuel rest
termination_by entries => (fuel, entries.length + 1)

end

-- The commits that an origin sends: those behind its references that do not lie behind a reference
-- of the same name here.
def sent (r origin : Repository) (offer : Offer) : List Id :=
  let names := headName :: offer.refs.map (·.1)
  let known := names.filterMap fun name =>
    match r.follow (mostHops + 1) name with
    | .found _ id => (r.peel? id).map (·.1)
    | _ => none
  let history := origin.history
  let old := history.reach known
  let tips := (offer.head.toList ++ offer.refs.map (·.2)).filterMap fun id =>
    (origin.peel? id).map (·.1)
  (history.reach tips).filter fun id => !old.contains id

def lacking? (r origin : Repository) (offer : Offer) : Option Id :=
  let both := r.adopt origin.objects
  let fuel := both.objects.length + 1
  (offer.refs.findSome? fun (_, id) => if origin.has id then none else some id).or
    ((r.sent origin offer).findSome? fun id =>
      match origin.object? id with
      | some (.commit c) =>
        if !both.isWhole fuel c.tree then some c.tree
        else c.parents.find? fun parent => !both.has parent
      | _ => some id)

-- Takes over what the rules name. If every tip is here already, no object is asked for.
def fetch (r origin : Repository) (rules : List FetchRule) :
    Except Fault (Repository × Offer) := do
  let offer <- origin.offer
  let wanted := rules.flatMap offer.taken
  let r <-
    if wanted.all fun (_, id) => r.has id then pure r
    else
      match r.lacking? origin offer with
      | some id => throw (.missingObject id)
      | none => pure (r.adopt origin.objects)
  let renamed := rules.flatMap fun rule =>
    (offer.taken rule).filterMap fun (name, id) => (rule.targetOf? name).map fun own => (own, id)
  return (renamed.foldl (fun r (name, id) => r.setRef name (.direct id)) r, offer)

end Repository

def Repository.followed? (r : Repository) (branch : String) : Option String := do
  let short := String.ofList (branch.toList.drop Repository.branchDir.length)
  let remote <- r.settings.get? ("branch." ++ short ++ ".remote")
  if remote = "origin" then r.settings.get? ("branch." ++ short ++ ".merge") else none

-- The tip to merge: that of the branch which is followed, else the first in order; without rules it
-- is what the origin has checked out.
def Repository.incoming? (r : Repository) (rules : List FetchRule) (offer : Offer) : Option Id :=
  if rules.isEmpty then offer.head
  else
    (rules.find? fun rule => !(offer.taken rule).isEmpty).bind fun rule =>
      let taken := offer.taken rule
      let followed := match r.head with
        | .found name _ => if rule.hasStar then r.followed? name else none
        | _ => none
      (followed.bind fun name => taken.lookup name).or (taken.head?.map (·.2))

def Repository.rules (r : Repository) : List FetchRule :=
  (r.settings.all "remote.origin.fetch").map FetchRule.read

end FleetSearch.Git
