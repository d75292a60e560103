import FleetSearch.Git.Clone

set_option autoImplicit false

/-!
Bringing a checkout up to date: with an origin it is cloned or pulled, without one it is taken as it
is.
-/

namespace FleetSearch.Git

open FleetSearch.Disk

structure Report where
  volume : Volume
  -- what there is to tell
  notes : List String := []
  result : Except SyncFault Id

def headOf (v : Volume) (dir : String) : Option Id :=
  match openRepository v dir with
  | .ok (_, r) => r.headCommit?
  | .error _ => none

def clone (v : Volume) (url dir : String) : Report :=
  let notes := ["Cloning " ++ url ++ " into " ++ dir]
  let up := (Path.parent dir).getD ""
  match v.makeDirs up with
  | .error fault => { volume := v, notes, result := .error (.parent up fault) }
  | .ok v =>
    match cloneInto v url dir with
    | .error fault => { volume := v, notes, result := .error (.clone url fault) }
    | .ok (v, w) =>
      { volume := v, notes := notes ++ ["Clone complete: " ++ dir]
        result := w.headId.mapError .plain }

def fetchOrigin (v : Volume) (r : Repository) (url : String) :
    Except Fault (Repository × Offer) := do
  let origin <- openOrigin v url
  r.fetch origin r.rules

def pullFault (dir : String) : PullFault -> SyncFault
  | .diverged => .diverged dir
  | .refused fault => .plain fault

def pull (v : Volume) (dir : String) : Report :=
  match openRepository v dir with
  | .error fault => { volume := v, result := .error (.opening dir fault) }
  | .ok (site, r) =>
    match r.settings.get? "remote.origin.url" with
    | none => { volume := v, result := .error (.origin .noRemote) }
    | some url =>
      match fetchOrigin v r url with
      | .error fault => { volume := v, result := .error (.fetch dir fault) }
      | .ok (r, offer) =>
        let w := Workspace.read v site r
        let (w, result) : Workspace × Except PullFault Id :=
          match r.incoming? r.rules offer with
          | none => (w, .error (.refused (.brokenRef "FETCH_HEAD")))
          | some tip => w.takeUp tip
        { volume := w.write v site, result := result.mapError (pullFault dir) }

-- A directory that is no repository, or has no commit, has the empty revision.
def sync (v : Volume) (url : Option String) (dir : String) : Report :=
  match url with
  | some url => if v.isPresent dir then pull v dir else clone v url dir
  | none =>
    if v.isDir dir then { volume := v, result := .ok ((headOf v dir).getD "") }
    else { volume := v, result := .error (.noCheckout dir) }

end FleetSearch.Git
