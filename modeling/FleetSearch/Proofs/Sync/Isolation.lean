import FleetSearch.Proofs.Sync.Visits
import FleetSearch.Service.Sync

set_option autoImplicit false

namespace FleetSearch

open FleetSearch.Checkout FleetSearch.Search

namespace Site

variable {i : Nat} {s t : Site} {c : Checkout}

theorem Isolated.still (isolated : s.Isolated i c) (steps : Relation.ReflTransGen (Step i) s t)
    {d : Checkout} (here : t.fleet.checkout? i = some d) {j : Nat} {visit later : Visit}
    (there : s.visits[j]? = some visit) (has : visit.hasTree = true)
    (after : t.visits[j]? = some later) (still : later.hasTree = true) :
    Alike c.dir s.volume t.volume ∧ d.status = c.status := by
  obtain ⟨seen, saw⟩ := Option.isSome_iff_exists.mp has
  have kept : ∃ last, t.visits[j]? = some last ∧ last.Keeps seen := by
    clear here after
    induction steps with
    | refl => exact ⟨visit, there, .inl saw⟩
    | tail _ step ih =>
      obtain ⟨last, place, keeps⟩ := ih
      exact step.keeps place keeps
  obtain ⟨last, place, keeps⟩ := kept
  obtain rfl : later = last := by simpa [after] using place
  have same : later.seen? = some seen := by
    refine keeps.resolve_right fun released => ?_
    simp [Visit.hasTree, Visit.seen?, released] at still
  obtain ⟨found, next, dir⟩ := isolated.steps steps
  obtain rfl : d = found := Option.some.inj (here.symm.trans next.here)
  obtain ⟨before, old⟩ := isolated.kept visit (List.mem_of_getElem? there) seen saw
  obtain ⟨now, new⟩ := next.kept later (List.mem_of_getElem? after) seen same
  exact ⟨before.symm.trans (dir ▸ now), new.symm.trans old⟩

/-- A sync that works has the tree alone, and nothing but its work changes the files or the status.
So both stay as they are as long as a probe has the tree; and a fetch for it greps what the probe
has seen and reports the revision of the time when it got the tree. -/
theorem snapshot_isolated (start s : Site) (i : Nat) (idle : start.Idle i)
    (steps : Relation.ReflTransGen (Step i) start s) :
    ∃ c, s.fleet.checkout? i = some c ∧
      (∀ k, s.fleet.Works i k ->
        (∀ l, s.fleet.Works i l -> l = k) ∧ ∀ visit ∈ s.visits, visit.hasTree = false) ∧
      (∀ t d, Step i s t -> t.fleet.checkout? i = some d -> (∀ k, ¬ s.fleet.Works i k) ->
        Alike c.dir s.volume t.volume ∧ d.status = c.status) ∧
      (∀ t d, Relation.ReflTransGen (Step i) s t -> t.fleet.checkout? i = some d ->
        ∀ (j : Nat) (visit later : Visit), s.visits[j]? = some visit -> visit.hasTree = true ->
          t.visits[j]? = some later -> later.hasTree = true ->
          Alike c.dir s.volume t.volume ∧ d.status = c.status) ∧
      (∀ visit ∈ s.visits, ∀ seen, visit.seen? = some seen ->
        Alike c.dir seen.volume s.volume ∧ c.status = seen.status) ∧
      ∀ visit ∈ s.visits, ∀ seen finding, visit.hold = .ended seen (.ok finding) ->
        Checkout.probe seen.volume c.dir c.repo.excludeDotFiles visit.query visit.options =
            .ok finding ∧
          finding.payload.texts s.volume = finding.payload.texts seen.volume ∧
          ∀ o, Checkout.fetch s.volume c.revision finding.payload o =
            Checkout.fetch seen.volume (seen.status.revision.getD "") finding.payload o := by
  obtain ⟨first, begun⟩ := idle.isolated
  obtain ⟨c, isolated, _⟩ := begun.steps steps
  refine ⟨c, isolated.here, fun k works => ⟨fun l other => ?_, isolated.empty works⟩,
    fun t d step here calm => step.quiet isolated here calm,
    fun t d later here j visit last there has after still =>
      isolated.still later here there has after still,
    fun visit member seen saw => ?_, fun visit member seen finding ended => ?_⟩
  · exact isolated.locked.alone l k other works
  · obtain ⟨alike, status⟩ := isolated.kept visit member seen saw
    exact ⟨alike, status.symm⟩
  · have saw : visit.seen? = some seen := by simp [Visit.seen?, ended]
    obtain ⟨alike, status⟩ := isolated.kept visit member seen saw
    have probed := (isolated.answered visit member seen _ ended).symm
    refine ⟨probed, alike.texts_of_probe probed, fun o => ?_⟩
    rw [Checkout.revision, ← status]
    exact alike.fetch_of_probe probed _ o

-- A probe comes while a sync works, and gets the tree when the sync has ended.
def oneCheckout : Site where
  volume := .empty
  fleet := { checkouts := [{ repo := default, dir := "r" }], permits := 1 }

def written : Disk.Volume where
  root := .dir [("r", .dir [])]

theorem oneCheckout_seen :
    ∃ s c visit seen, Relation.ReflTransGen (Step 0) oneCheckout s ∧
      s.fleet.checkout? 0 = some c ∧ visit ∈ s.visits ∧ visit.seen? = some seen ∧
      seen.status = c.status ∧ c.revision = "b0" := by
  have idle : oneCheckout.Idle 0 :=
    ⟨⟨_, rfl, rfl⟩, fun k ⟨_, there, _⟩ => by simp [oneCheckout] at there, ⟨.nil, nofun⟩, rfl⟩
  have steps : Relation.ReflTransGen (Step 0) oneCheckout _ :=
    .tail (.tail (.tail (.tail (.tail .refl
      (.fleet (.request 0 .update) nofun nofun))
      (.fleet (.attempt 0) nofun nofun))
      (.probe "x" {}))
      (.write 0 written ⟨_, rfl, rfl, rfl⟩))
      (.fleet (.finish 0 (.ok "b0")) nofun nofun)
  obtain ⟨c, here, _, _, _, kept, _⟩ := snapshot_isolated _ _ 0 idle steps
  obtain ⟨_, status⟩ := kept _ (List.mem_singleton_self _) _ rfl
  refine ⟨_, c, _, _, steps, here, List.mem_singleton_self _, rfl, status.symm, ?_⟩
  cases here
  rfl

end Site

namespace Service

variable {s : Service} {i k : Nat}

def site (s : Service) (visits : List Visit) : Site where
  volume := s.volume
  fleet := s.fleet
  visits

theorem start_idle {catalog : Catalog} {volume : Disk.Volume} (started : start catalog volume = .ok s)
    (inside : i < catalog.repos.length) : (s.site []).Idle i := by
  unfold start ofCheckouts Fleet.start at started
  cases pool : Permits.start catalog.maxSyncs with
  | error fault => simp [pool, bind, Except.bind] at started
  | ok permits =>
    simp only [pool, bind, Except.bind, pure, Except.pure] at started
    cases started
    have here : (checkoutsOf catalog)[i]? =
        some { repo := catalog.repos[i], dir := catalog.directory catalog.repos[i] } := by
      simp [checkoutsOf, inside]
    exact ⟨⟨_, here, rfl⟩, fun k ⟨_, there, _⟩ => by simp [site] at there, ⟨.nil, nofun⟩, rfl⟩

theorem foldl_write_site (notes : List String) (s : Service) (visits : List Visit) :
    (notes.foldl (fun s text => s.write .info text) s).site visits = s.site visits := by
  induction notes generalizing s with
  | nil => rfl
  | cons text rest ih => exact ih (s.write .info text)

theorem conclude_site (s : Service) (k : Nat) (visits : List Visit) :
    (s.conclude k).site visits = s.site visits := by
  have rests : ∀ (s : Service) (asker : Sync.Asker),
      (s.rest asker).site visits = s.site visits := fun s asker => by
    cases asker <;> rfl
  unfold conclude
  split
  next repo asker outcome there =>
    cases outcome <;> cases asker <;> rw [rests] <;> rfl
  next => rfl

theorem work_site {job : Sync.Job} (there : s.fleet.jobs[k]? = some job) (visits : List Visit) :
    let report := Git.sync s.volume (s.checkout job.repo).repo.url (s.checkout job.repo).dir
    (s.work k).site visits =
      { volume := report.volume
        fleet := s.fleet.finish k (report.result.mapError fun fault => Search.causeLine fault.causes)
        visits } := by
  intro report
  have noted := foldl_write_site report.notes { s with volume := report.volume } visits
  unfold work
  simp only [there, conclude_site]
  have fleet := congrArg Site.fleet noted
  have volume := congrArg Site.volume noted
  simp only [site] at fleet volume ⊢
  rw [fleet, volume]

theorem work_record (works : s.fleet.Works i k) {c : FleetSearch.Checkout}
    (here : s.fleet.checkout? i = some c) :
    let report := Git.sync s.volume c.repo.url c.dir
    (s.work k).volume = report.volume ∧ ∃ after, (s.work k).fleet.checkout? i = some after ∧
      after.status = c.status.record s.fleet.now
        (report.result.mapError fun fault => Search.causeLine fault.causes) := by
  obtain ⟨job, there, own, stage⟩ := works
  have same : s.checkout job.repo = c := by rw [checkout, own, here, Option.getD_some]
  have worked := work_site there []
  rw [same] at worked
  have fleet := congrArg (fun site => site.fleet.checkout? i) worked
  exact ⟨congrArg Site.volume worked, _,
    fleet.trans (Fleet.finish_checkout ⟨job, there, own, stage⟩ here _), rfl⟩

theorem work_steps (works : s.fleet.Works i k) (visits : List Visit) :
    Relation.ReflTransGen (Site.Step i) (s.site visits)
      (Site.letIn i ((s.work k).site visits)) := by
  obtain ⟨job, there, own, stage⟩ := works
  let report := Git.sync s.volume (s.checkout job.repo).repo.url (s.checkout job.repo).dir
  rw [work_site there visits]
  have writes : Site.Step i (s.site visits) { s.site visits with volume := report.volume } :=
    .write k report.volume ⟨job, there, own, stage⟩
  exact .tail (.single writes) (.fleet (.finish k _) nofun nofun)

end Service

end FleetSearch
