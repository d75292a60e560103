import FleetSearch.Git.Layout

set_option autoImplicit false

/-!
New workspaces from an origin. An origin is named by the path of its directory, and there is no
other transport.
-/

namespace FleetSearch.Git

open FleetSearch.Disk

def standardRule : String := "+refs/heads/*:refs/remotes/origin/*"
def standardBranch : String := "refs/heads/master"

def openOrigin (v : Volume) (url : String) : Except Fault Repository :=
  if !v.isDir url then .error .noTransport else (openRepository v url).map (·.2)

-- The branch that an origin has checked out. If its `HEAD` names none, it is one with the same
-- commit, the standard branch before others.
def Repository.defaultBranch? (origin : Repository) (offer : Offer) (head : Id) : Option String :=
  match origin.ref? headName with
  | some (.symbolic name) => some name
  | _ =>
    let same := offer.refs.filter fun (name, id) => id == head && isBranch name
    ((same.find? fun e => e.1 == standardBranch).or same.head?).map (·.1)

def localBranch (name : String) : String :=
  if Repository.isBranch name then name else Repository.branchDir ++ name

def shortBranch (name : String) : String :=
  String.ofList (name.toList.drop Repository.branchDir.length)

def settingsText (url : String) (branch : Option String) : String :=
  Config.writeSection "core" [("repositoryformatversion", "0"), ("filemode", "true"),
      ("bare", "false"), ("logallrefupdates", "true")]
    ++ Config.writeSection "remote \"origin\"" [("url", url), ("fetch", standardRule)]
    ++ (match branch with
      | none => ""
      | some name =>
        let short := shortBranch (localBranch name)
        Config.writeSection ("branch " ++ Config.quoted short)
          [("remote", "origin"), ("merge", Repository.branchDir ++ short)])

def Workspace.clone (origin : Repository) : Except Fault (Workspace × Option String) := do
  let rules := [FetchRule.read standardRule]
  let empty : Repository :=
    { loose := [(Repository.headName, .symbolic standardBranch)], objects := origin.objects }
  let (r, offer) <- empty.fetch origin rules
  match offer.head with
  | none => return ({ repository := r }, none)
  | some head =>
    match r.peel? head with
    | none => throw (.missingObject head)
    | some (id, commit) =>
      match origin.defaultBranch? offer head with
      | none =>
        let w : Workspace := { repository := r.setRef Repository.headName (.direct id) }
        return (<- w.checkout commit, none)
      | some name =>
        let r := r.setRef (localBranch name) (.direct id)
        let r := r.setRef Repository.headName (.symbolic (localBranch name))
        let w : Workspace := { repository := r }
        return (<- w.checkout commit, some name)

def frame (settings : String) : Node :=
  (Node.dir []).put ["config"] (.file settings.toUTF8)
    |>.put ["objects"] (.dir [])
    |>.put ["refs", "heads"] (.dir [])

def cloneInto (v : Volume) (url dir : String) : Except Fault (Volume × Workspace) := do
  let origin <- openOrigin v url
  let (w, branch) <- Workspace.clone origin
  let v <- (v.makeDirs dir).mapError Fault.disk
  let tree <- (v.locate true dir).mapError Fault.disk
  let git := tree ++ [".git"]
  let v : Volume := { root := v.root.put git (frame (settingsText url branch)) }
  return (w.write v { tree, git }, w)

end FleetSearch.Git
