import FleetSearch.Git.Fetch

set_option autoImplicit false

/-!
A repository with its working tree, and how the checked out branch takes up a tip. The branch only
ever moves forward.
-/

namespace FleetSearch.Git

open FleetSearch.Disk

structure Workspace where
  repository : Repository
  -- the files that belong to the commit
  tracked : List Leaf := []
  -- all files, those of the repository left out
  files : Node := .dir []
  isBare : Bool := false
deriving Inhabited

inductive PullFault where
  | diverged
  | refused (fault : Fault)
deriving DecidableEq

namespace Workspace

def moveTo (w : Workspace) (name : String) (id : Id) : Workspace :=
  let r := w.repository.setRef name (.direct id)
  let r :=
    if Repository.isBranch name then r.setRef Repository.headName (.symbolic name)
    else r.setRef Repository.headName (.direct id)
  { w with repository := r }

def checkout (w : Workspace) (commit : Commit) : Except Fault Workspace :=
  if w.isBare then .error .noWorktree
  else do
    let (tracked, files) <- w.repository.checkout commit.tree w.tracked w.files
    return { w with tracked, files }

def headId (w : Workspace) : Except Fault Id :=
  match w.repository.head with
  | .missing name => .error (.unborn name)
  | .broken name => .error (.brokenRef name)
  | .found _ id =>
    match w.repository.peel? id with
    | some (id, _) => .ok id
    | none => .error (.missingObject id)

/-- Takes up a tip. The branch is moved before the files are written, so a checkout that is refused
leaves them behind it. -/
def takeUp (w : Workspace) (tip : Id) : Workspace × Except PullFault Id :=
  match w.repository.peel? tip with
  | none => (w, .error (.refused (.missingObject tip)))
  | some (tip, commit) =>
    match w.repository.head with
    | .missing name => (w, .error (.refused (.unborn name)))
    | .broken name => (w, .error (.refused (.brokenRef name)))
    | .found name id =>
      match w.repository.peel? id with
      | none => (w, .error (.refused (.missingObject id)))
      | some (head, _) =>
        match w.repository.history.course head tip with
        | .upToDate => (w, .ok head)
        | .diverged => (w, .error .diverged)
        | .forward =>
          let moved := w.moveTo name tip
          match moved.checkout commit with
          | .ok w => (w, .ok tip)
          | .error fault => (moved, .error (.refused fault))

end Workspace

end FleetSearch.Git
