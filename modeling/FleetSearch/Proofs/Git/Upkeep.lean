import FleetSearch.Proofs.Git.Branch
import FleetSearch.Proofs.Git.Offer

set_option autoImplicit false

/-!
A checkout over many syncs. Each sync finds it as the last one left it, and the origin may have
become anything in between. A sync that tells of a commit has that commit checked out, but its files
are there only if the last sync that moved the branch could write them.
-/

namespace FleetSearch.Git

open FleetSearch.Disk

namespace Workspace

def pull (w : Workspace) (v : Volume) (dir : String) : Workspace × Except SyncFault Id :=
  match w.repository.settings.get? "remote.origin.url" with
  | none => (w, .error (.origin .noRemote))
  | some url =>
    match fetchOrigin v w.repository url with
    | .error fault => (w, .error (.fetch dir fault))
    | .ok (r, offer) =>
      let w := { w with repository := r }
      let (w, result) : Workspace × Except PullFault Id :=
        match r.incoming? r.rules offer with
        | none => (w, .error (.refused (.brokenRef "FETCH_HEAD")))
        | some tip => w.takeUp tip
      (w, result.mapError (pullFault dir))

inductive Pulled (w : Workspace) (v : Volume) (dir : String) :
    Workspace -> Except SyncFault Id -> Prop
  | unfetched (fault : SyncFault) : Pulled w v dir w (.error fault)
  | unmerged (r : Repository) (offer : Offer) (url : String)
      (fetched : fetchOrigin v w.repository url = .ok (r, offer)) (fault : SyncFault) :
    Pulled w v dir { w with repository := r } (.error fault)
  | taken (r : Repository) (offer : Offer) (url : String) (tip : Id) (next : Workspace)
      (result : Except PullFault Id)
      (origin : w.repository.settings.get? "remote.origin.url" = some url)
      (fetched : fetchOrigin v w.repository url = .ok (r, offer))
      (incoming : r.incoming? r.rules offer = some tip)
      (taken : Taken { w with repository := r } tip next result) :
    Pulled w v dir next (result.mapError (pullFault dir))

theorem pull_pulled (w : Workspace) (v : Volume) (dir : String) :
    w.Pulled v dir (w.pull v dir).1 (w.pull v dir).2 := by
  unfold pull
  cases origin : w.repository.settings.get? "remote.origin.url" with
  | none => exact .unfetched _
  | some url =>
    simp only
    cases fetched : fetchOrigin v w.repository url with
    | error fault => exact .unfetched _
    | ok found =>
      obtain ⟨r, offer⟩ := found
      simp only
      cases incoming : r.incoming? r.rules offer with
      | none => exact .unmerged r offer url fetched _
      | some tip =>
        exact .taken r offer url tip _ _ origin fetched incoming (takeUp_taken _ tip)

theorem pull_takes {w : Workspace} {v : Volume} {dir url : String} {r : Repository} {offer : Offer}
    {tip : Id} (origin : w.repository.settings.get? "remote.origin.url" = some url)
    (fetched : fetchOrigin v w.repository url = .ok (r, offer))
    (incoming : r.incoming? r.rules offer = some tip) :
    w.pull v dir = (({ w with repository := r }.takeUp tip).1,
      ({ w with repository := r }.takeUp tip).2.mapError (pullFault dir)) := by
  rw [pull, origin]
  simp only [fetched, incoming]

end Workspace

theorem pull_read {v : Volume} {dir : String} {site : Site} {r : Repository}
    (opened : openRepository v dir = .ok (site, r)) :
    (Git.pull v dir).result = ((Workspace.read v site r).pull v dir).2 ∧
      ((Git.pull v dir).volume = ((Workspace.read v site r).pull v dir).1.write v site ∨
        (Git.pull v dir).volume = v ∧ ∃ fault,
          (Workspace.read v site r).pull v dir = (Workspace.read v site r, .error fault)) := by
  have own : (Workspace.read v site r).repository = r := rfl
  unfold Git.pull Workspace.pull
  simp only [opened, own]
  cases origin : r.settings.get? "remote.origin.url" with
  | none => exact ⟨rfl, .inr ⟨rfl, _, rfl⟩⟩
  | some url =>
    simp only
    cases fetched : fetchOrigin v r url with
    | error fault => exact ⟨rfl, .inr ⟨rfl, _, rfl⟩⟩
    | ok found =>
      obtain ⟨r, offer⟩ := found
      simp only
      cases incoming : r.incoming? r.rules offer with
      | none => exact ⟨rfl, .inl rfl⟩
      | some tip => exact ⟨rfl, .inl rfl⟩

theorem own_refs {r origin next : Repository} {offer : Offer}
    (ran : r.fetch origin [FetchRule.read standardRule] = .ok (next, offer)) (name : String)
    (own : Repository.IsOwn name) : next.ref? name = r.ref? name := by
  obtain ⟨_, _, _, refs⟩ := Repository.fetch_ok ran
  refine refs name fun rule member other target => ?_
  rw [List.mem_singleton.mp member] at target
  exact Repository.standard_target target own

structure Repository.Tracks (r : Repository) (url : String) : Prop where
  origin : r.settings.get? "remote.origin.url" = some url
  rules : r.rules = [FetchRule.read standardRule]
  follows : ∀ name id, r.head = .found name id -> Repository.isBranch name = true ->
    r.followed? name = some name

theorem Repository.Tracks.incoming {before r origin : Repository} {offer : Offer}
    {url name last : String} {id own tip : Id} (tracks : before.Tracks url)
    (fetched : before.fetch origin before.rules = .ok (r, offer))
    (stood : before.head = .found name id) (stands : r.head = .found name own)
    (branch : Repository.isBranch name = true) (there : origin.target name = .found last tip) :
    r.incoming? r.rules offer = some tip := by
  obtain ⟨offered, _, settings, _⟩ := Repository.fetch_ok fetched
  have follows : r.followed? name = some name := by
    rw [Repository.followed?, settings]
    exact tracks.follows name id stood branch
  have rules : r.rules = [FetchRule.read standardRule] := by
    rw [Repository.rules, settings]
    exact tracks.rules
  rw [rules]
  exact Repository.incoming_followed offered stands branch follows there

structure Workspace.Keeps (left found : Workspace) : Prop where
  refs : ∀ name, Repository.IsOwn name -> found.repository.ref? name = left.repository.ref? name
  objects : left.repository.Within found.repository
  tracked : found.tracked = left.tracked
  files : ∀ path, found.files.file? path = left.files.file? path

def foiledBy (found next : Workspace) (result : Except SyncFault Id)
    (before : Option SyncFault) : Option SyncFault :=
  if next.repository.head = found.repository.head then before
  else
    match result with
    | .ok _ => none
    | .error fault => some fault

structure Left where
  site : Site
  workspace : Workspace
  -- what it could read of the origin
  origin : Option Repository
  -- how the last sync ended that moved `HEAD`, if it failed
  foiled : Option SyncFault

/-- What a sync on volume `v` leaves behind that has cloned the origin, or has pulled into a checkout
that it found as the sync before had left it. Syncs that give up before that leave all as it is. -/
inductive Leaves (url dir : String) : Volume -> Left -> Prop
  | cloned (v up dirs made : Volume) (tree : List String) (origin : Repository) (w : Workspace)
      (absent : v.isPresent dir = false)
      (above : v.makeDirs ((Path.parent dir).getD "") = .ok up)
      (opened : openOrigin up url = .ok origin) (below : up.makeDirs dir = .ok dirs)
      (place : dirs.locate true dir = .ok tree) (cloned : cloneInto up url dir = .ok (made, w)) :
    Leaves url dir v
      { site := { tree, git := tree ++ [".git"] }, workspace := w, origin := some origin
        foiled := none }
  | pulled (before v : Volume) (left : Left) (site : Site) (r : Repository)
      (earlier : Leaves url dir before left) (present : v.isPresent dir = true)
      (opened : openRepository v dir = .ok (site, r))
      (inside : site.git = site.tree ++ [".git"]) (tracks : r.Tracks url)
      (kept : left.workspace.Keeps (Workspace.read v site r)) :
    Leaves url dir v
      { site, workspace := ((Workspace.read v site r).pull v dir).1
        origin := (openOrigin v url).toOption
        foiled := foiledBy (Workspace.read v site r) ((Workspace.read v site r).pull v dir).1
          ((Workspace.read v site r).pull v dir).2 left.foiled }

namespace Workspace

/-- `HEAD` stands on no commit, or on a commit of which the last sync that moved `HEAD` could write
the files or could not. -/
inductive Sound (w : Workspace) (foiled : Option SyncFault) : Prop
  | unborn (name : String) (on : w.repository.On name none)
  | born (name : String) (id : Id) (commit shown : Commit)
      (on : w.repository.On name (some (.direct id)))
      (there : w.repository.object? id = some (.commit commit)) (shows : w.Shows shown)
      (done : foiled = none -> shown = commit)
      (refused : ∀ path, foiled = some (.plain (.badPath path)) -> ∃ leaves,
        w.repository.leaves commit.tree = .ok leaves ∧ ∃ l ∈ leaves, l.isSafe = false)

variable {w found next : Workspace} {foiled : Option SyncFault}

theorem Sound.same (sound : w.Sound foiled)
    (refs : ∀ name, Repository.IsOwn name -> next.repository.ref? name = w.repository.ref? name)
    (within : w.repository.Within next.repository) (tracked : next.tracked = w.tracked)
    (files : ∀ path, next.files.file? path = w.files.file? path) : next.Sound foiled := by
  cases sound with
  | unborn name on => exact .unborn name (on.same refs)
  | born name id commit shown on there shows done refused =>
    refine .born name id commit shown (on.same refs) (within.object? there)
      (shows.within within tracked files) done fun path foiled => ?_
    obtain ⟨leaves, below, bad⟩ := refused path foiled
    exact ⟨leaves, within.leaves below, bad⟩

theorem Sound.tells (sound : w.Sound foiled) {sha : Id} (head : w.headId = .ok sha) :
    ∃ commit, w.repository.object? sha = some (.commit commit) ∧
      (foiled = none -> w.Shows commit) ∧
      ∀ path, foiled = some (.plain (.badPath path)) -> ¬ w.Shows commit := by
  unfold headId at head
  split at head
  next => cases head
  next => cases head
  next last tip stands =>
    cases sound with
    | unborn name on => exact absurd stands on.unborn
    | born name id commit shown on there shows done refused =>
      obtain ⟨_, rfl, _⟩ := on.found stands
      rw [Repository.peel_of_object there] at head
      obtain rfl : tip = sha := by simpa using head
      refine ⟨commit, there, fun none => done none ▸ shows, fun path bad shown => ?_⟩
      obtain ⟨leaves, below, l, member, dangerous⟩ := refused path bad
      obtain rfl : leaves = w.tracked := Except.ok.inj (below.symm.trans shown.leaves)
      simp [shown.safe l member] at dangerous

theorem foiledBy_same {result : Except SyncFault Id}
    (same : next.repository.head = found.repository.head) :
    foiledBy found next result foiled = foiled :=
  if_pos same

theorem foiledBy_moved {result : Except SyncFault Id}
    (moved : next.repository.head ≠ found.repository.head) :
    foiledBy found next result foiled =
      match result with
      | .ok _ => none
      | .error fault => some fault :=
  if_neg moved

variable {v : Volume} {dir url : String} {result : Except SyncFault Id}

theorem Sound.fetched (sound : found.Sound foiled) (tracks : found.repository.Tracks url)
    {r : Repository} {offer : Offer} {remote : String}
    (fetched : fetchOrigin v found.repository remote = .ok (r, offer)) :
    { found with repository := r }.Sound foiled ∧ r.head = found.repository.head := by
  obtain ⟨origin, _, fetched⟩ := bind_ok fetched
  have refs := own_refs (tracks.rules ▸ fetched)
  refine ⟨sound.same refs (Repository.within_fetch fetched) rfl fun _ => rfl, ?_⟩
  cases sound with
  | unborn name on => exact on.head_same (on.same refs) nofun
  | born name id commit shown on => exact on.head_same (on.same refs) nofun

theorem Sound.pulled (sound : found.Sound foiled) (tracks : found.repository.Tracks url)
    (pulled : found.Pulled v dir next result) (tidy : next.repository.Tidy) :
    next.Sound (foiledBy found next result foiled) := by
  cases pulled with
  | unfetched fault => rwa [foiledBy_same rfl]
  | unmerged r offer remote fetched fault =>
    obtain ⟨sound, same⟩ := sound.fetched tracks fetched
    rwa [foiledBy_same same]
  | taken r offer remote tip next result origin fetched incoming taken =>
    obtain ⟨sound, same⟩ := sound.fetched tracks fetched
    cases taken with
    | refused fault => rwa [foiledBy_same same]
    | upToDate => rwa [foiledBy_same same]
    | forward name id head goal commit next stands peeled wanted moves ahead wrote =>
      cases sound with
      | unborn branch on => exact absurd stands on.unborn
      | born branch place old shown on there shows done refused =>
        obtain ⟨rfl, rfl, valid⟩ := on.found stands
        obtain ⟨_, repository, _, _⟩ := checkout_parts wrote
        -- the files are those of `shown`, and all of them tracked, so the checkout replaces them
        have tidy : (moveTo { found with repository := r } name goal).repository.Tidy :=
          repository ▸ tidy
        have objects := Repository.moveTo_objects { found with repository := r } name goal
        have moved := on.moveTo goal
        have clean := shows.clean (tidy.within (.of_objects objects))
        have shows := shows_of_checkout (w := moveTo { found with repository := r } name goal)
          ⟨clean.inside, clean.known⟩ tidy wrote
        have apart : next.repository.head ≠ found.repository.head := by
          rw [← same, stands, repository, moved.head_found valid]
          simpa using moves
        have own := (Repository.Within.of_objects objects).object? (Repository.object_of_peel wanted)
        rw [foiledBy_moved apart]
        exact .born name goal commit commit (repository ▸ moved) (repository ▸ own) shows
          (fun _ => rfl) nofun
    | stranded name id head goal commit fault stands peeled wanted moves ahead foiled =>
      cases sound with
      | unborn branch on => exact absurd stands on.unborn
      | born branch place old shown on there shows done refused =>
        obtain ⟨rfl, rfl, valid⟩ := on.found stands
        -- the branch has moved, the files are still those of `shown`
        have objects := Repository.moveTo_objects { found with repository := r } name goal
        have within := Repository.Within.of_objects objects
        have moved := on.moveTo goal
        have apart : (moveTo { found with repository := r } name goal).repository.head ≠
            found.repository.head := by
          rw [← same, stands, moved.head_found valid]
          simpa using moves
        rw [foiledBy_moved apart]
        refine .born name goal commit shown moved (within.object? (Repository.object_of_peel wanted))
          (shows.within within rfl fun _ => rfl) nofun fun path bad => ?_
        cases bad
        exact leaves_of_badPath foiled

theorem Taken.objects {tip : Id} {result : Except PullFault Id}
    (taken : w.Taken tip next result) : next.repository.objects = w.repository.objects := by
  cases taken with
  | refused => rfl
  | upToDate => rfl
  | forward name id head goal commit next stands peeled wanted moves ahead wrote =>
    obtain ⟨_, repository, _, _⟩ := checkout_parts wrote
    rw [repository, Repository.moveTo_objects]
  | stranded name id head goal => rw [Repository.moveTo_objects]

theorem Taken.within {tip : Id} {result : Except PullFault Id} (taken : w.Taken tip next result) :
    w.repository.Within next.repository :=
  .of_objects taken.objects

theorem Pulled.within (pulled : found.Pulled v dir next result) :
    found.repository.Within next.repository := by
  cases pulled with
  | unfetched => exact .refl _
  | unmerged r offer remote fetched =>
    obtain ⟨_, _, fetched⟩ := bind_ok fetched
    exact Repository.within_fetch fetched
  | taken r offer remote tip next result origin fetched incoming taken =>
    obtain ⟨_, _, fetched⟩ := bind_ok fetched
    exact (Repository.within_fetch fetched).trans taken.within

-- Where the origin has the branch that is checked out, its tip is `sha` or lies behind it.
def CaughtUp (w : Workspace) (origin : Repository) (sha : Id) : Prop :=
  ∀ name id last tip, w.repository.head = .found name id -> Repository.isBranch name = true ->
    origin.target name = .found last tip -> ∃ goal commit,
      w.repository.peel? tip = some (goal, commit) ∧
        Relation.ReflTransGen w.repository.history.Parent sha goal

theorem Taken.tells {tip sha : Id} {result : Except PullFault Id} (sound : w.Sound foiled)
    (taken : w.Taken tip next result) (told : result = .ok sha) :
    next.headId = .ok sha ∧ (∃ goal commit, next.repository.peel? tip = some (goal, commit) ∧
      Relation.ReflTransGen next.repository.history.Parent sha goal) ∧
      ∀ name id, next.repository.head = .found name id ->
        ∃ before, w.repository.head = .found name before := by
  cases taken with
  | refused => cases told
  | stranded => cases told
  | upToDate name id head goal commit stands peeled wanted behind =>
    cases told
    refine ⟨?_, ⟨goal, commit, wanted, behind⟩, fun _ _ same => ⟨_, same⟩⟩
    obtain ⟨⟨own, known⟩, here, rfl⟩ := Option.map_eq_some_iff.mp peeled
    rw [headId, stands]
    simp only [here]
  | forward name id head goal commit next stands peeled wanted moves ahead wrote =>
    obtain rfl : goal = sha := Except.ok.inj told
    cases sound with
    | unborn branch on => exact absurd stands on.unborn
    | born branch place old shown on =>
      obtain ⟨rfl, rfl, valid⟩ := on.found stands
      obtain ⟨_, repository, _, _⟩ := checkout_parts wrote
      have within := Repository.Within.of_objects (Repository.moveTo_objects w name goal)
      have moved := (on.moveTo goal).head_found valid
      have there := within.object? (Repository.object_of_peel wanted)
      rw [headId, repository, moved]
      refine ⟨?_, ⟨goal, commit, within.peel? wanted, .refl⟩, fun other last same => ?_⟩
      · simp only [Repository.peel_of_object there]
      · cases same
        exact ⟨_, stands⟩

theorem Pulled.tells {sha : Id} (sound : found.Sound foiled) (tracks : found.repository.Tracks url)
    (pulled : found.Pulled v dir next result) (told : result = .ok sha) :
    next.headId = .ok sha ∧ ∃ origin, openOrigin v url = .ok origin ∧ next.CaughtUp origin sha := by
  cases pulled with
  | unfetched => cases told
  | unmerged => cases told
  | taken r offer remote tip next result named fetched incoming taken =>
    obtain rfl : remote = url := Option.some.inj (named.symm.trans tracks.origin)
    obtain ⟨sound, same⟩ := sound.fetched tracks fetched
    obtain ⟨origin, opened, fetched⟩ := bind_ok fetched
    obtain ⟨head, behind, stays⟩ := taken.tells sound (mapError_ok told)
    refine ⟨head, origin, opened, fun name id last own stands branch there => ?_⟩
    obtain ⟨before, stood⟩ := stays name id stands
    rw [tracks.incoming fetched (same ▸ stood) stood branch there] at incoming
    exact Option.some.inj incoming ▸ behind

end Workspace

theorem isBranch_local (name : String) : Repository.isBranch (localBranch name) = true := by
  unfold localBranch
  split
  next branch => exact branch
  next => simp [Repository.isBranch, String.toList_append]

def Repository.OnBranch (origin : Repository) : Prop :=
  ∀ name, origin.ref? Repository.headName = some (.symbolic name) -> Repository.isBranch name = true

inductive Workspace.Fresh (origin : Repository) (w : Workspace) : Prop
  | unborn (on : w.repository.On standardBranch none)
  | born (name : String) (id : Id) (commit : Commit)
      (on : w.repository.On name (some (.direct id)))
      (there : w.repository.object? id = some (.commit commit))
      (caughtUp : origin.OnBranch -> w.CaughtUp origin id)
      (wrote : Workspace.checkout { repository := w.repository } commit = .ok w)

theorem default_target {origin : Repository} {offer : Offer} {head : Id} {name last : String}
    {tip : Id} (offered : origin.offer = .ok offer) (first : offer.head = some head)
    (onBranch : origin.OnBranch) (default : origin.defaultBranch? offer head = some name)
    (there : origin.target (localBranch name) = .found last tip) : tip = head := by
  obtain ⟨own, stands⟩ := (Repository.offer_ok offered).1 head first
  unfold Repository.defaultBranch? at default
  split at default
  next other attached =>
    cases default
    have branch := onBranch name attached
    rw [localBranch, if_pos branch] at there
    rw [Repository.head, Repository.follow_symbolic Repository.isName_head attached] at stands
    cases there.symm.trans stands
    rfl
  next =>
    obtain ⟨e, found, rfl⟩ := Option.map_eq_some_iff.mp default
    obtain ⟨member, same⟩ : e ∈ offer.refs ∧ (e.2 == head && Repository.isBranch e.1) = true := by
      rcases Option.or_eq_some_iff.mp found with standard | ⟨_, other⟩
      · exact List.mem_filter.mp (List.mem_of_find?_eq_some standard)
      · exact List.mem_filter.mp (List.mem_of_mem_head? other)
    obtain ⟨same, branch⟩ := Bool.and_eq_true_iff.mp same
    obtain ⟨_, found⟩ := Repository.target_of_offer offered member
    rw [localBranch, if_pos branch] at there
    cases there.symm.trans found
    exact eq_of_beq same

theorem clone_fresh {origin : Repository} {w : Workspace} {branch : Option String}
    (read : Workspace.clone origin = .ok (w, branch)) : w.Fresh origin := by
  unfold Workspace.clone at read
  let empty : Repository :=
    { loose := [(Repository.headName, .symbolic standardBranch)], objects := origin.objects }
  obtain ⟨⟨r, offer⟩, fetched, read⟩ := bind_ok read
  obtain ⟨offered, adopted, _⟩ := Repository.fetch_ok fetched
  have refs := own_refs fetched
  simp only at read
  split at read
  next =>
    cases read
    have on : empty.On standardBranch none := ⟨fun _ => ⟨by decide +kernel, rfl⟩, rfl⟩
    exact .unborn (on.same refs)
  next head first =>
    split at read
    next => cases read
    next id commit peeled =>
      have there := Repository.object_of_peel peeled
      split at read
      -- no branch stands where the origin's `HEAD` does
      next none =>
        obtain ⟨w, wrote, read⟩ := bind_ok read
        cases read
        obtain ⟨_, repository, _, _⟩ := Workspace.checkout_parts wrote
        have on : w.repository.On Repository.headName (some (.direct id)) := by
          rw [repository]
          exact ⟨fun apart => absurd rfl apart, by rw [Repository.ref?_setRef, if_pos rfl]⟩
        refine .born _ id commit on (repository ▸ there) (fun _ name own last tip stands branch => ?_)
          (repository ▸ wrote)
        obtain ⟨rfl, _⟩ := on.found stands
        simp [Repository.isBranch_head] at branch
      next name default =>
        obtain ⟨w, wrote, read⟩ := bind_ok read
        cases read
        obtain ⟨_, repository, _, _⟩ := Workspace.checkout_parts wrote
        have apart : localBranch name ≠ Repository.headName := fun same => by
          simpa [same, Repository.isBranch_head] using isBranch_local name
        have on : w.repository.On (localBranch name) (some (.direct id)) := by
          rw [repository]
          refine ⟨fun _ => ⟨isBranch_local name, by rw [Repository.ref?_setRef, if_pos rfl]⟩, ?_⟩
          rw [Repository.ref?_setRef, if_neg apart, Repository.ref?_setRef, if_pos rfl]
        have within : r.Within w.repository := repository ▸ .of_objects rfl
        refine .born _ id commit on (within.object? there)
          (fun onBranch other own last tip stands _ found => ?_) (repository ▸ wrote)
        obtain ⟨rfl, _⟩ := on.found stands
        obtain rfl := default_target offered first onBranch default found
        exact ⟨id, commit, within.peel? peeled, .refl⟩

theorem clone_takes {origin r own : Repository} {w : Workspace} {offer : Offer} {head id : Id}
    {commit : Commit} {name : String}
    (fetched : Repository.fetch
      { loose := [(Repository.headName, .symbolic standardBranch)], objects := origin.objects }
      origin [FetchRule.read standardRule] = .ok (r, offer))
    (first : offer.head = some head) (peeled : r.peel? head = some (id, commit))
    (default : origin.defaultBranch? offer head = some name)
    (stands : own = (r.setRef (localBranch name) (.direct id)).setRef Repository.headName
      (.symbolic (localBranch name)))
    (wrote : Workspace.checkout { repository := own } commit = .ok w) :
    Workspace.clone origin = .ok (w, some name) := by
  subst stands
  rw [Workspace.clone]
  simp only [bind, Except.bind, fetched, first, peeled, default, wrote]
  rfl

namespace Workspace.Fresh

variable {origin : Repository} {w : Workspace}

theorem sound (fresh : w.Fresh origin) (tidy : w.repository.Tidy) : w.Sound none := by
  cases fresh with
  | unborn on => exact .unborn _ on
  | born name id commit on there tip wrote =>
    have empty : Workspace.Clean { repository := w.repository } := by
      refine ⟨nofun, fun path file => absurd ?_ file⟩
      cases path <;> rfl
    exact .born name id commit commit on there (shows_of_checkout empty tidy wrote) (fun _ => rfl)
      nofun

theorem tells (fresh : w.Fresh origin) (onBranch : origin.OnBranch) {sha : Id}
    (head : w.headId = .ok sha) : w.CaughtUp origin sha := by
  unfold headId at head
  split at head
  next => cases head
  next => cases head
  next last tip stands =>
    cases fresh with
    | unborn on => exact absurd stands on.unborn
    | born name id commit on there caughtUp =>
      obtain ⟨_, rfl, _⟩ := on.found stands
      rw [Repository.peel_of_object there] at head
      exact Except.ok.inj head ▸ caughtUp onBranch

end Workspace.Fresh

end FleetSearch.Git
