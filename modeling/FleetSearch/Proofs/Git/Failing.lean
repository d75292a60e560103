import FleetSearch.Proofs.Git.Reported

set_option autoImplicit false

namespace FleetSearch.Git

open FleetSearch.Disk

namespace Repository

variable {r s : Repository} {name last : String} {id : Id} {hops : Nat}

def Spares (r : Repository) (name : String) : Prop :=
  ∀ rule ∈ r.rules, ∀ other, rule.targetOf? other ≠ some name

def Links (r : Repository) (name next : String) : Prop :=
  r.ref? name = some (.symbolic next)

def SparesHead (r : Repository) : Prop :=
  ∀ name, Relation.ReflTransGen r.Links headName name -> r.Spares name

theorem spares_of_standard (rules : r.rules = [FetchRule.read standardRule]) (own : IsOwn name) :
    r.Spares name := by
  intro rule member other target
  rw [rules, List.mem_singleton] at member
  exact standard_target (member ▸ target) own

theorem On.sparesHead {ref : Option Ref} (on : r.On name ref)
    (plain : ∀ next, ref ≠ some (.symbolic next))
    (rules : r.rules = [FetchRule.read standardRule]) : r.SparesHead := by
  intro last leads
  apply spares_of_standard rules
  have ends : ∀ last, Relation.ReflTransGen r.Links name last -> last = name := by
    intro last leads
    rcases leads.cases_head with same | ⟨next, link, _⟩
    · exact same.symm
    · exact absurd (on.there.symm.trans link) (plain next)
  by_cases detached : name = headName
  next => exact ends last (detached ▸ leads) ▸ on.own
  next =>
    rcases leads.cases_head with rfl | ⟨next, link, leads⟩
    · exact .inl rfl
    · obtain rfl : name = next := by
        simpa [Links, (on.attached detached).2] using link
      exact ends last leads ▸ on.own

theorem follow_same
    (same : ∀ last, Relation.ReflTransGen r.Links name last -> s.ref? last = r.ref? last) :
    s.follow hops name = r.follow hops name := by
  induction hops generalizing name with
  | zero =>
    unfold follow
    rw [same name .refl]
  | succ hops ih =>
    unfold follow
    rw [same name .refl]
    cases link : r.ref? name with
    | none => rfl
    | some ref =>
      cases ref with
      | symbolic next => simp only [ih fun last leads => same last (.head link leads)]
      | _ => rfl

theorem follow_found (found : r.follow hops name = .found last id) :
    r.ref? last = some (.direct id) ∧ Ref.isName last = true := by
  induction hops generalizing name with
  | zero =>
    unfold follow at found
    split at found
    next => cases found
    next valid =>
      split at found <;> cases found
      exact ⟨by assumption, by simpa using valid⟩
  | succ hops ih =>
    unfold follow at found
    split at found
    next => cases found
    next valid =>
      split at found
      next => cases found
      next there =>
        cases found
        exact ⟨there, by simpa using valid⟩
      next => cases found
      next next _ => exact ih found

end Repository

namespace Workspace

variable {w next last : Workspace} {branch : String} {goal tip sha : Id} {commit : Commit}

theorem moveTo_head (w : Workspace) (goal : Id) (valid : Ref.isName branch = true) :
    (w.moveTo branch goal).repository.ref? branch = some (.direct goal) ∧
      ∃ name, (w.moveTo branch goal).repository.head = .found name goal := by
  unfold moveTo
  dsimp only
  split
  next own =>
    have apart : branch ≠ Repository.headName := fun same => by
      simp [same, Repository.isBranch_head] at own
    have there : ((w.repository.setRef branch (.direct goal)).setRef Repository.headName
        (.symbolic branch)).ref? branch = some (.direct goal) := by
      rw [Repository.ref?_setRef, if_neg apart, Repository.ref?_setRef, if_pos rfl]
    refine ⟨there, branch, ?_⟩
    rw [Repository.head, Repository.follow_symbolic Repository.isName_head
      (by rw [Repository.ref?_setRef, if_pos rfl])]
    exact Repository.follow_direct valid there
  next =>
    refine ⟨?_, Repository.headName, Repository.follow_direct Repository.isName_head ?_⟩
    · rw [Repository.ref?_setRef, Repository.ref?_setRef, if_pos rfl, ite_self]
    · rw [Repository.ref?_setRef, if_pos rfl]

theorem headId_of_object {name : String} (stands : w.repository.head = .found name goal)
    (there : w.repository.object? goal = some (.commit commit)) : w.headId = .ok goal := by
  rw [headId, stands]
  simp only [Repository.peel_of_object there]

theorem headId_within (stands : next.repository.head = w.repository.head)
    (within : w.repository.Within next.repository) (old : w.headId = .ok sha) :
    next.headId = .ok sha := by
  unfold headId at old ⊢
  rw [stands]
  split at old
  next => cases old
  next => cases old
  next last id found =>
    cases peeled : w.repository.peel? id with
    | none => simp [peeled] at old
    | some commit => simpa [peeled, within.peel? peeled] using old

theorem takeUp_standing {name : String} (stands : w.repository.head = .found name goal)
    (there : w.repository.object? goal = some (.commit commit))
    (offered : (w.repository.peel? tip).map Prod.fst = some goal) :
    w.takeUp tip = (w, .ok goal) := by
  obtain ⟨⟨_, other⟩, peeled, rfl⟩ := Option.map_eq_some_iff.mp offered
  have course := History.course_self (Repository.history_lookup there)
  unfold takeUp
  simp only [peeled, stands, Repository.peel_of_object there, course]

structure Unmoved (w next : Workspace) : Prop where
  refs : ∀ name, w.repository.Spares name -> next.repository.ref? name = w.repository.ref? name
  head : w.repository.SparesHead -> next.repository.head = w.repository.head
  objects : w.repository.Within next.repository

-- The branch has been moved on to `goal`, the checkout of which is refused.
structure Stranded (w next : Workspace) (branch : String) (goal : Id) (refused : Fault) : Prop where
  stood : ∃ id, (w.repository.Spares branch -> w.repository.ref? branch = some (.direct id)) ∧
    id ≠ goal
  moved : next.repository.ref? branch = some (.direct goal)
  head : next.headId = .ok goal
  refused : ∃ commit, next.repository.object? goal = some (.commit commit) ∧
    next.checkout commit = .error refused
  -- when the same commit is offered again there is nothing to do
  done : ∀ tip, (next.repository.peel? tip).map Prod.fst = some goal ->
    next.takeUp tip = (next, .ok goal)

theorem Unmoved.of_same (refs : ∀ name, w.repository.Spares name ->
      next.repository.ref? name = w.repository.ref? name)
    (objects : w.repository.Within next.repository) : w.Unmoved next :=
  ⟨refs, fun spared => Repository.follow_same fun last leads => refs last (spared last leads),
    objects⟩

variable {v : Volume} {dir : String} {fault : SyncFault}

theorem Unmoved.fetched {r : Repository} {offer : Offer} {url : String}
    (fetched : fetchOrigin v w.repository url = .ok (r, offer)) :
    w.Unmoved { w with repository := r } := by
  obtain ⟨origin, _, fetched⟩ := bind_ok fetched
  obtain ⟨_, _, _, refs⟩ := Repository.fetch_ok fetched
  exact .of_same refs (Repository.within_fetch fetched)

theorem Stranded.of_foiled {name : String} {id : Id} {refused : Fault}
    (unmoved : w.Unmoved last) (stands : last.repository.head = .found name id)
    (wanted : last.repository.object? goal = some (.commit commit)) (moves : goal ≠ id)
    (foiled : (last.moveTo name goal).checkout commit = .error refused) :
    w.Stranded (last.moveTo name goal) name goal refused := by
  obtain ⟨there, valid⟩ := Repository.follow_found stands
  obtain ⟨moved, _, head⟩ := moveTo_head last goal valid
  have own := (Repository.Within.of_objects (Repository.moveTo_objects last name goal)).object? wanted
  exact ⟨⟨id, fun spared => (unmoved.refs name spared).symm.trans there, Ne.symm moves⟩, moved,
    headId_of_object head own, ⟨commit, own, foiled⟩, fun _ => takeUp_standing head own⟩

theorem Pulled.failed {result : Except SyncFault Id} (pulled : w.Pulled v dir next result)
    (failed : result = .error fault) :
    next.tracked = w.tracked ∧ next.files = w.files ∧
      (w.Unmoved next ∨
        ∃ branch goal refused, fault = .plain refused ∧ w.Stranded next branch goal refused) := by
  cases pulled with
  | unfetched => exact ⟨rfl, rfl, .inl (.of_same (fun _ _ => rfl) (.refl _))⟩
  | unmerged r offer url fetched => exact ⟨rfl, rfl, .inl (.fetched fetched)⟩
  | taken r offer url tip next result origin fetched incoming taken =>
    have unmoved := Unmoved.fetched (w := w) fetched
    cases taken with
    | refused => exact ⟨rfl, rfl, .inl unmoved⟩
    | upToDate => cases failed
    | forward => cases failed
    | stranded name id head goal commit refused stands peeled wanted moves ahead foiled =>
      cases failed
      exact ⟨rfl, rfl, .inr ⟨name, goal, refused, rfl, .of_foiled unmoved stands
        (Repository.object_of_peel wanted) moves foiled⟩⟩

theorem Pulled.headId {result : Except SyncFault Id} (pulled : w.Pulled v dir next result)
    (told : result = .ok sha) : next.headId = .ok sha := by
  cases pulled with
  | unfetched => cases told
  | unmerged => cases told
  | taken r offer url tip next result origin fetched incoming taken =>
    cases taken with
    | refused => cases told
    | stranded => cases told
    | upToDate name id head goal commit stands peeled =>
      cases told
      obtain ⟨⟨_, other⟩, here, rfl⟩ := Option.map_eq_some_iff.mp peeled
      rw [Workspace.headId, stands]
      simp only [here]
    | forward name id head goal commit next stands peeled wanted moves ahead wrote =>
      obtain rfl : goal = sha := Except.ok.inj told
      obtain ⟨_, valid⟩ := Repository.follow_found stands
      obtain ⟨_, repository, _, _⟩ := checkout_parts wrote
      obtain ⟨_, _, moved⟩ := moveTo_head { w with repository := r } goal valid
      have within := Repository.Within.of_objects
        (Repository.moveTo_objects { w with repository := r } name goal)
      exact headId_of_object (repository ▸ moved)
        (repository ▸ within.object? (Repository.object_of_peel wanted))

def SameWork (w next : Workspace) : Prop :=
  ∀ old, w.headId = .ok old -> next.headId = .ok old ∧
    ∀ (found last : Workspace) (v : Volume) (dir : String) (sha : Id),
      found.repository.head = next.repository.head ->
      next.repository.Within found.repository -> found.pull v dir = (last, .ok sha) ->
      last.repository.head = found.repository.head -> sha = old

theorem Unmoved.sameWork (unmoved : w.Unmoved next) (spared : w.repository.SparesHead) :
    w.SameWork next := by
  intro old stood
  refine ⟨headId_within (unmoved.head spared) unmoved.objects stood, ?_⟩
  intro found last v dir sha again kept told rests
  have pulled := found.pull_pulled v dir
  rw [told] at pulled
  have stands := (rests.trans again).trans (unmoved.head spared)
  have same := headId_within stands (unmoved.objects.trans (kept.trans pulled.within)) stood
  exact Except.ok.inj ((pulled.headId rfl).symm.trans same)

end Workspace

theorem files_read (v : Volume) (site : Site) : (readFiles v site).file? [] = none ∧
    ∀ rest, (readFiles v site).file? (".git" :: rest) = none := by
  unfold readFiles
  split
  next entries there =>
    refine ⟨rfl, fun rest => ?_⟩
    have erased : Node.dir (entries.filter fun e => e.1 != ".git") =
        (Node.dir entries).erase [".git"] := rfl
    rw [erased, Node.file?_erase, if_pos rfl]
  next => exact ⟨rfl, fun _ => rfl⟩

/-- All that a pull changes that fails. The files of the checkout are as before, and its status but
for the error; `HEAD` and its branch are as before if the fault is none of the checkout. -/
theorem failed_pull {v : Volume} {dir : String} {fault : SyncFault}
    (failed : (Git.pull v dir).result = .error fault) :
    ((Git.pull v dir).volume = v ∨ ∃ site r next, openRepository v dir = .ok (site, r) ∧
      (Git.pull v dir).volume = next.write v site ∧
      next.tracked = readTracked v site ∧ next.files = readFiles v site ∧
      (site.git = site.tree ++ [".git"] -> ∀ path,
        (readFiles (Git.pull v dir).volume site).file? path = (readFiles v site).file? path) ∧
      ((Workspace.read v site r).Unmoved next ∧
          (r.SparesHead -> (Workspace.read v site r).SameWork next) ∨
        ∃ branch goal refused, fault = .plain refused ∧
          (Workspace.read v site r).Stranded next branch goal refused)) ∧
    ∀ (s : Service) (i k : Nat) (c : Checkout), s.volume = v -> s.fleet.Works i k ->
      s.fleet.checkout? i = some c -> c.repo.url.isSome = true -> c.dir = dir ->
      v.isPresent dir = true -> (s.work k).volume = (Git.pull v dir).volume ∧
        ∃ after, (s.work k).fleet.checkout? i = some after ∧
          after.status = { c.status with error := some (Search.causeLine fault.causes) } := by
  refine ⟨?_, ?_⟩
  · cases opened : openRepository v dir with
    | error unopened =>
      left
      simp only [Git.pull, opened]
    | ok found =>
      obtain ⟨site, r⟩ := found
      obtain ⟨answer, wrote | ⟨same, _⟩⟩ := pull_read opened
      next =>
        have pulled := (Workspace.read v site r).pull_pulled v dir
        obtain ⟨tracked, files, left⟩ := pulled.failed (answer.symm.trans failed)
        refine .inr ⟨site, r, _, rfl, wrote, tracked, files, fun inside path => ?_, ?_⟩
        · obtain ⟨rooted, apart⟩ := files_read v site
          have found : (Workspace.read v site r).files = readFiles v site := rfl
          rw [wrote, readFiles_written (by rwa [files]) (by rwa [files]) inside
            (site_own opened inside), files, found]
        · rcases left with unmoved | stranded
          · exact .inl ⟨unmoved, unmoved.sameWork⟩
          · exact .inr stranded
      next => exact .inl same
  · rintro s i k c rfl works here remote rfl present
    obtain ⟨url, own⟩ := Option.isSome_iff_exists.mp remote
    obtain ⟨volume, after, found, status⟩ := s.work_record works here
    rw [own, sync_pulls present] at volume status
    refine ⟨volume, after, found, ?_⟩
    rw [status, failed]
    rfl

namespace Unwritable

theorem pull_refused : ∃ next : Workspace,
    (Git.pull (later oldTip) "co").result = .error (.plain (.badPath ".git")) ∧
    (Git.pull (later oldTip) "co").volume = next.write (later oldTip) (siteOf "co") ∧
    next.headId = .ok newTip ∧ next.repository.objects = objects ∧
    next.tracked = [leaf "f.rs"] ∧ next.takeUp newTip = (next, .ok newTip) := by
  have is : oldTip ∈ [oldTip, newTip] := List.mem_cons_self
  obtain ⟨_, _, there, _, _, apart⟩ := contents_hold
  obtain ⟨r, same, refs, pulled⟩ := pull_later is
  obtain ⟨_, opens, _⟩ := opened_later is
  have on := (ours_on oldTip).same refs
  rw [takeUp_refused same on, ← read_later is] at pulled
  have objects := (Repository.moveTo_objects (standing r) trunk newTip).trans same
  have head : ((standing r).moveTo trunk newTip).repository.head = .found trunk newTip :=
    head_trunk (on.moveTo newTip)
  have commit := (object_eq objects newTip).trans there
  obtain ⟨answer, wrote | ⟨_, fault, unmoved⟩⟩ := pull_read opens
  next =>
    rw [pulled] at answer wrote
    refine ⟨_, answer, wrote, Workspace.headId_of_object head commit, objects, rfl,
      Workspace.takeUp_standing head commit ?_⟩
    rw [peel_new objects, Option.map_some]
  next =>
    have still := congrArg (fun ended => ended.1.repository.head) (pulled.symm.trans unmoved)
    have stood : (Workspace.read (later oldTip) (siteOf "co") (ours oldTip)).repository.head =
        .found trunk oldTip := head_trunk (ours_on oldTip)
    simp only [head, stood] at still
    cases still

theorem pull_refused_files :
    (Git.pull (later oldTip) "co").result = .error (.plain (.badPath ".git")) ∧
      ∀ path, (readFiles (Git.pull (later oldTip) "co").volume (siteOf "co")).file? path =
        (readFiles (later oldTip) (siteOf "co")).file? path := by
  have is : oldTip ∈ [oldTip, newTip] := List.mem_cons_self
  obtain ⟨_, failed, _⟩ := pull_refused
  obtain ⟨_, opens, _⟩ := opened_later is
  refine ⟨failed, fun path => ?_⟩
  obtain ⟨same | ⟨site, r, next, opened, _, _, _, files, _⟩, _⟩ := failed_pull failed
  · rw [same]
  · cases opens.symm.trans opened
    exact files rfl path

/-- A pull fails and moves `HEAD`, although no fetch does; the next sync finds nothing to do. -/
theorem refused_moves_head : ∃ next : Workspace,
    (Git.pull (later oldTip) "co").result = .error (.plain (.badPath ".git")) ∧
    (Git.pull (later oldTip) "co").volume = next.write (later oldTip) (siteOf "co") ∧
    openRepository (later oldTip) "co" = .ok (siteOf "co", ours oldTip) ∧
    (ours oldTip).SparesHead ∧
    (Workspace.read (later oldTip) (siteOf "co") (ours oldTip)).headId = .ok oldTip ∧
    next.headId = .ok newTip ∧ oldTip ≠ newTip ∧
    next.takeUp newTip = (next, .ok newTip) ∧ next.tracked = [leaf "f.rs"] ∧
    next.repository.leaves newCommit.tree = .ok [leaf ".git"] ∧
    (Git.sync (later newTip) (some "origin") "co").result = .ok newTip := by
  obtain ⟨_, old, _, tree, _, apart⟩ := contents_hold
  obtain ⟨next, failed, wrote, head, objects, tracked, done⟩ := pull_refused
  have is : oldTip ∈ [oldTip, newTip] := List.mem_cons_self
  obtain ⟨_, opens, _⟩ := opened_later is
  obtain ⟨_, _, _, told⟩ := leaves_done
  refine ⟨next, failed, wrote, opens, (ours_on oldTip).sparesHead nofun (ours_tracks oldTip).rules,
    ?_, head, apart, done, tracked, leaves_of objects tree, told⟩
  exact Workspace.headId_of_object (head_trunk (ours_on oldTip)) ((object_eq rfl oldTip).trans old)

end Unwritable

end FleetSearch.Git
