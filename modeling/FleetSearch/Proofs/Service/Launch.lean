import FleetSearch.Proofs.Git.Leaves
import FleetSearch.Proofs.Service.Leaks
import FleetSearch.Proofs.Sync.Isolation

set_option autoImplicit false

/-!
A launch. Every checkout is synced once, and nobody holds a tree then, so each sync has its tree at
the first attempt and all have come to their end before any time has passed.
-/

namespace FleetSearch

open FleetSearch.Sync

def Sync.Stage.left : Stage -> Nat
  | .queued => 2
  | .waiting _ => 2
  | .working => 1
  | .done _ => 0

namespace Fleet

def left (jobs : List Job) : Nat :=
  (jobs.map fun j => j.stage.left).foldr (· + ·) 0

theorem left_setStage {f : Fleet} {k : Nat} {j : Job} (there : f.jobs[k]? = some j)
    (stage : Stage) : left (f.setStage k stage).jobs + j.stage.left = left f.jobs + stage.left := by
  simp only [setStage, left]
  generalize f.jobs = jobs at there
  induction jobs generalizing k with
  | nil => simp at there
  | cons first rest ih =>
    cases k with
    | zero =>
      obtain rfl : first = j := by simpa using there
      simp only [List.modify_zero_cons, List.map_cons, List.foldr_cons]
      omega
    | succ k =>
      have later := ih (k := k) (by simpa using there)
      simp only [List.modify_succ_cons, List.map_cons, List.foldr_cons]
      omega

theorem left_le (jobs : List Job) : left jobs ≤ 2 * jobs.length := by
  induction jobs with
  | nil => exact Nat.le_refl _
  | cons j rest ih =>
    have most : j.stage.left ≤ 2 := by cases j.stage <;> simp [Stage.left]
    simp only [left, List.map_cons, List.foldr_cons, List.length_cons] at ih ⊢
    omega

theorem done_of_left {jobs : List Job} (none : left jobs = 0) : ∀ j ∈ jobs, j.isDone = true := by
  induction jobs with
  | nil => simp
  | cons first rest ih =>
    simp only [left, List.map_cons, List.foldr_cons, Nat.add_eq_zero_iff] at none
    intro j member
    rcases List.mem_cons.mp member with rfl | later
    · cases stage : j.stage <;> simp_all [Job.isDone, Stage.left]
    · exact ih none.2 j later

def Prompt (f : Fleet) : Prop :=
  ∀ (k : Nat) (j : Job), f.jobs[k]? = some j ->
    j.repo = k ∧ ∀ w, j.stage = .waiting w -> w.isDue f.now = true

theorem Prompt.setStage {f : Fleet} (prompt : f.Prompt) (k : Nat) {stage : Stage}
    (due : ∀ w, stage = .waiting w -> w.isDue f.now = true) : (f.setStage k stage).Prompt := by
  intro l j there
  rw [setStage_job] at there
  split at there
  next =>
    obtain ⟨old, before, rfl⟩ := Option.map_eq_some_iff.mp there
    exact ⟨(prompt l old before).1, due⟩
  next => exact prompt l j there

theorem Prompt.freePermit {f : Fleet} (prompt : f.Prompt) : f.freePermit.Prompt := by
  unfold Fleet.freePermit
  split
  next => exact prompt
  next k rest queue =>
    have shorter : { f with queue := rest }.Prompt := prompt
    refine shorter.setStage k fun w starts => ?_
    cases starts
    simp [Wait.isDue, Wait.start]

theorem left_freePermit {f : Fleet} (queueing : f.Queueing) :
    left f.freePermit.jobs = left f.jobs := by
  unfold freePermit
  split
  next => rfl
  next k rest queue =>
    obtain ⟨j, there, waits⟩ := queueing.queued k (by simp [queue])
    have same := left_setStage (f := { f with queue := rest }) there (.waiting (.start f.now))
    rw [waits] at same
    exact Nat.add_right_cancel same

-- No probe holds a tree, and each checkout is synced by nobody or by its own job.
structure Starting (f : Fleet) : Prop where
  queueing : f.Queueing
  served : f.Served
  shared : Traffic.Shared f []
  prompt : f.Prompt

namespace Starting

variable {f : Fleet} {k : Nat} {j : Job}

theorem act (starting : f.Starting) (a : Act) (other : ∀ i, a ≠ .borrow i)
    (apart : ∀ i, a ≠ .giveBack i)
    (inside : ∀ repo asker, a = .request repo asker -> repo < f.checkouts.length)
    (prompt : (f.act a).Prompt) : (f.act a).Starting :=
  ⟨starting.queueing.act a, starting.served.act starting.queueing a inside,
    starting.shared.act starting.queueing a other apart, prompt⟩

theorem tree (starting : f.Starting) {i : Nat} {c : Checkout} (here : f.checkout? i = some c)
    (idle : ¬ f.Works i i) : c.tree = {} := by
  have locked := starting.shared.locked i c here
  obtain ⟨readers, blocked⟩ := starting.shared.counted i c here
  have calm : c.tree.writing = false := by
    rw [Bool.eq_false_iff]
    intro writes
    obtain ⟨l, j, there, own, works⟩ := locked.writer.mp writes
    obtain rfl : l = i := (starting.prompt l j there).1.symm.trans own
    exact idle ⟨j, there, own, works⟩
  cases tree : c.tree
  simp_all

theorem attempt (starting : f.Starting) (there : f.jobs[k]? = some j)
    (due : j.isDue f.now = true) :
    (f.attempt k).Starting ∧ left (f.attempt k).jobs < left f.jobs := by
  obtain ⟨repo, asker, stage⟩ := j
  cases stage with
  | waiting w =>
    obtain ⟨own, _⟩ := starting.prompt k _ there
    obtain rfl : repo = k := own
    have known := starting.served.known repo _ there
    have here : f.checkout? repo = some f.checkouts[repo] := List.getElem?_eq_getElem known
    have idle : ¬ f.Works repo repo := by
      rintro ⟨j, same, _, works⟩
      cases there.symm.trans same
      cases works
    have free : f.isTreeFree repo = true := by
      simp [isTreeFree, here, starting.tree here idle, Tree.isFree]
    have taken : f.attempt repo = (f.changeTree repo Tree.claim).setStage repo .working := by
      have due : w.isDue f.now = true := due
      simp [Fleet.attempt, there, due, free, Wait.attempt]
    have before : (f.changeTree repo Tree.claim).jobs[repo]? = some _ := there
    have less := left_setStage before .working
    refine ⟨starting.act (.attempt repo) (by simp) (by simp) (by simp) ?_, ?_⟩
    · rw [Fleet.act, taken]
      have prompt : (f.changeTree repo Tree.claim).Prompt := starting.prompt
      exact prompt.setStage repo (by simp)
    · rw [taken]
      simp only [Stage.left] at less
      have same : left (f.changeTree repo Tree.claim).jobs = left f.jobs := rfl
      omega
  | _ => simp [Job.isDue] at due

theorem finish (starting : f.Starting) (there : f.jobs[k]? = some j) (works : j.stage = .working)
    (result : Except String String) :
    (f.finish k result).Starting ∧ left (f.finish k result).jobs < left f.jobs := by
  obtain ⟨repo, asker, stage⟩ := j
  obtain rfl : stage = .working := works
  let recorded : Fleet := f.change repo fun c =>
    { c with tree := c.tree.yield, status := c.status.record f.now result }
  have ends : f.finish k result =
      (recorded.setStage k (.done (outcomeOf result))).freePermit := by
    simp only [Fleet.finish, there, recorded]
  have before : recorded.jobs[k]? = some _ := there
  have queueing : recorded.Queueing := ⟨starting.queueing.once, starting.queueing.queued⟩
  have less := left_setStage before (.done (outcomeOf result))
  refine ⟨starting.act (.finish k result) (by simp) (by simp) (by simp) ?_, ?_⟩
  · rw [Fleet.act, ends]
    have prompt : recorded.Prompt := starting.prompt
    exact (prompt.setStage k fun w starts => by cases starts).freePermit
  · rw [ends, left_freePermit (queueing.setStage _ (queueing.out before (by simp)))]
    simp only [Stage.left] at less
    have same : left recorded.jobs = left f.jobs := rfl
    omega

theorem done (starting : f.Starting) (rests : f.due? = none) (idle : f.working? = none) :
    ∀ j ∈ f.jobs, j.isDone = true := by
  -- A sync in the queue has an active one before it, and there is none: those that try for a tree
  -- may do so now, and those that have one can finish.
  have early := List.findIdx?_eq_none_iff.mp rests
  have calm := List.findIdx?_eq_none_iff.mp idle
  have still : ∀ (k : Nat) (j : Job), f.jobs[k]? = some j -> j.stage.isActive = false := by
    intro k j there
    have member := List.mem_of_getElem? there
    cases stage : j.stage with
    | waiting w =>
      have due := (starting.prompt k j there).2 w stage
      have late := early j member
      simp [Job.isDue, stage, due] at late
    | working =>
      have other := calm j member
      simp [Job.isWorking, stage] at other
    | _ => rfl
  intro j member
  obtain ⟨k, inside, rfl⟩ := List.mem_iff_getElem.mp member
  have there : f.jobs[k]? = some f.jobs[k] := List.getElem?_eq_getElem inside
  have asleep := still k _ there
  cases stage : f.jobs[k].stage with
  | queued =>
    obtain ⟨l, other, here, active⟩ := starting.served.behind there stage
    simp [still l other here] at active
  | done outcome => simp [Job.isDone, stage]
  | _ => simp [stage, Stage.isActive] at asleep

theorem request (starting : f.Starting) (inside : f.jobs.length < f.checkouts.length)
    (asker : Asker) : (f.request f.jobs.length asker).Starting := by
  refine starting.act (.request f.jobs.length asker) (by simp) (by simp) (fun repo _ same => ?_) ?_
  · cases same
    exact inside
  · have appended : ∀ (g : Fleet) (job : Job), g.now = f.now -> g.jobs = f.jobs ++ [job] ->
        job.repo = f.jobs.length ->
        (∀ w, job.stage = .waiting w -> w.isDue f.now = true) -> g.Prompt := by
      intro g job now jobs own due k j there
      rw [jobs] at there
      rw [now]
      rcases Nat.lt_trichotomy k f.jobs.length with before | rfl | behind
      · rw [List.getElem?_append_left before] at there
        exact starting.prompt k j there
      · rw [List.getElem?_concat_length] at there
        obtain rfl := Option.some.inj there
        exact ⟨own, due⟩
      · rw [List.getElem?_eq_none (by simp; omega)] at there
        cases there
    rw [Fleet.act, Fleet.request]
    split
    next => exact appended _ _ rfl rfl rfl fun w starts => by cases starts
    next =>
      refine appended _ _ rfl rfl rfl fun w starts => ?_
      cases starts
      simp [Wait.isDue, Wait.start]

end Starting

end Fleet

namespace Service

structure Unused (s : Service) : Prop where
  searches : s.searches.runs = []
  scopes : s.scopes = []
  pollers : s.pollers = []

variable {s : Service}

theorem Unused.along (unused : s.Unused) {next : Service} (searches : next.searches = s.searches)
    (scopes : next.scopes = s.scopes) (pollers : next.pollers = s.pollers) : next.Unused :=
  ⟨searches ▸ unused.searches, scopes ▸ unused.scopes, pollers ▸ unused.pollers⟩

theorem Unused.conclude (unused : s.Unused) (k : Nat) : (s.conclude k).Unused := by
  have rests : ∀ (s : Service) (asker : Asker), s.Unused -> (s.rest asker).Unused := by
    intro s asker unused
    cases asker with
    | poller k => exact ⟨unused.searches, unused.scopes, by simp [Service.rest, unused.pollers]⟩
    | _ => exact unused
  have writes : ∀ level text, (s.write level text).Unused := fun _ _ =>
    unused.along rfl rfl rfl
  unfold Service.conclude
  split
  next repo asker outcome there =>
    cases outcome <;> cases asker <;> exact rests _ _ (by first | exact writes _ _ | exact unused)
  next => exact unused

theorem foldl_log {E : Type} {tell : Service -> E -> Service}
    (tells : ∀ s e, ∃ log, tell s e = { s with log }) (entries : List E) (s : Service) :
    ∃ log, entries.foldl tell s = { s with log } := by
  induction entries generalizing s with
  | nil => exact ⟨s.log, rfl⟩
  | cons e rest ih =>
    obtain ⟨first, told⟩ := tells s e
    obtain ⟨last, same⟩ := ih (tell s e)
    refine ⟨last, ?_⟩
    rw [List.foldl_cons, same, told]

theorem Unused.work (unused : s.Unused) (k : Nat) : (s.work k).Unused := by
  unfold Service.work
  split
  next => exact unused
  next job there =>
    let report := Git.sync s.volume (s.checkout job.repo).repo.url (s.checkout job.repo).dir
    obtain ⟨log, noted⟩ : ∃ log, report.notes.foldl (fun s text => s.write .info text)
        { s with volume := report.volume } = { s with volume := report.volume, log } :=
      foldl_log (fun _ _ => ⟨_, rfl⟩) _ _
    dsimp only
    rw [noted]
    apply Unused.conclude
    exact unused.along rfl rfl rfl

-- A service that only its first syncs are at work in.
structure Starting (s : Service) : Prop where
  unused : s.Unused
  fleet : s.fleet.Starting

theorem Starting.step (starting : s.Starting) {next : Service} (step : s.step? = some next) :
    next.Starting ∧ Fleet.left next.fleet.jobs < Fleet.left s.fleet.jobs := by
  unfold step? at step
  simp only [starting.unused.pollers, List.any_nil, Bool.false_eq_true, if_false] at step
  split at step
  next k due =>
    obtain rfl := Option.some.inj step
    obtain ⟨inside, isDue, _⟩ := List.findIdx?_eq_some_iff_getElem.mp due
    have went := starting.fleet.attempt (List.getElem?_eq_getElem inside) isDue
    have fleet : (s.attempt k).fleet = s.fleet.attempt k :=
      congrArg Site.fleet (conclude_site { s with fleet := s.fleet.attempt k } k [])
    have unused : (s.attempt k).Unused := by
      apply Unused.conclude
      exact starting.unused.along rfl rfl rfl
    rw [fleet]
    exact ⟨⟨unused, fleet ▸ went.1⟩, went.2⟩
  next =>
    obtain ⟨k, working, rfl⟩ := Option.map_eq_some_iff.mp step
    obtain ⟨inside, works, _⟩ := List.findIdx?_eq_some_iff_getElem.mp working
    have there := List.getElem?_eq_getElem inside
    have went := starting.fleet.finish there (by simpa [Job.isWorking] using works)
    have fleet := congrArg Site.fleet (work_site there [])
    simp only [site] at fleet
    rw [fleet]
    exact ⟨⟨starting.unused.work k, fleet ▸ (went _).1⟩, (went _).2⟩

theorem Starting.settleFrom (starting : s.Starting) {fuel : Nat}
    (enough : Fleet.left s.fleet.jobs ≤ fuel) :
    (s.settleFrom fuel).Starting ∧ ∀ j ∈ (s.settleFrom fuel).fleet.jobs, j.isDone = true := by
  induction fuel generalizing s with
  | zero => exact ⟨starting, Fleet.done_of_left (Nat.le_zero.mp enough)⟩
  | succ fuel ih =>
    rw [Service.settleFrom]
    cases step : s.step? with
    | some next =>
      obtain ⟨still, less⟩ := starting.step step
      exact ih still (by omega)
    | none =>
      refine ⟨starting, ?_⟩
      unfold step? at step
      simp only [starting.unused.pollers, List.any_nil, Bool.false_eq_true, if_false] at step
      split at step
      next => cases step
      next due => exact starting.fleet.done due (Option.map_eq_none_iff.mp step)

theorem Starting.await (starting : s.Starting) :
    let last := s.await fun s => s.openJobs = 0
    last.Starting ∧ ∀ j ∈ last.fleet.jobs, j.isDone = true := by
  have enough : Fleet.left s.fleet.jobs ≤ s.mostSteps := by
    have most := Fleet.left_le s.fleet.jobs
    unfold mostSteps
    omega
  obtain ⟨settled, done⟩ := starting.settleFrom enough
  have none : s.settle.openJobs = 0 := by
    rw [openJobs, List.countP_eq_zero]
    intro j member
    simp [done j member]
  -- `await` settles before it looks at the clock, and stops there.
  have same : (s.await fun s => s.openJobs = 0) = s.settle := by
    unfold Service.await runTo runFrom
    simp [none]
  rw [same]
  exact ⟨settled, done⟩

theorem start_starting {catalog : Catalog} {volume : Disk.Volume}
    (started : start catalog volume = .ok s) : s.Starting ∧ s.fleet.jobs = [] := by
  have untouched := Lending.start_untouched started
  have trees : ∀ i c, s.fleet.checkout? i = some c -> c.tree = {} := fun i c here =>
    untouched.trees c (List.mem_of_getElem? here)
  have permits : 0 < s.fleet.permits ∧ s.pollers = [] := by
    unfold start ofCheckouts Fleet.start Search.Permits.start at started
    dsimp only at started
    split at started
    next =>
      cases started
      exact ⟨by dsimp only; omega, rfl⟩
    next => cases started
  refine ⟨⟨⟨untouched.searches, untouched.scopes, permits.2⟩, ?_, ?_, ?_, ?_⟩, untouched.jobs⟩
  · exact ⟨by simp [untouched.queue], by simp [untouched.queue]⟩
  · exact ⟨by simp [untouched.jobs], by simp [untouched.queue], .inl permits.1,
      by simp [untouched.jobs]⟩
  · exact Traffic.shared_nil trees untouched.jobs
  · intro k j there
    simp [untouched.jobs] at there

theorem Starting.requests (starting : s.Starting) (none : s.fleet.jobs = []) (m : Nat)
    (inside : m ≤ s.fleet.checkouts.length) :
    let next := (List.range m).foldl (fun s i => s.requestSync i .caller) s
    next.Starting ∧ next.fleet.jobs.length = m ∧
      next.fleet.checkouts.length = s.fleet.checkouts.length := by
  induction m with
  | zero => exact ⟨starting, by simp [none], rfl⟩
  | succ m ih =>
    obtain ⟨begun, jobs, length⟩ := ih (by omega)
    rw [List.range_succ, List.foldl_append]
    generalize (List.range m).foldl (fun s i => s.requestSync i .caller) s = t at *
    have asked := begun.fleet.request (by omega) .caller
    rw [jobs] at asked
    refine ⟨⟨begun.unused.along rfl rfl rfl, asked⟩, ?_, ?_⟩
    · simp only [List.foldl_cons, List.foldl_nil, requestSync, Fleet.request]
      split <;> simp [jobs]
    · rw [← length]
      exact Fleet.act_length t.fleet (.request m .caller)

theorem keepReady_eq (s : Service) :
    ∃ ready log, (∀ c ∈ ready, c ∈ s.fleet.checkouts) ∧
      s.keepReady = { s with fleet := { s.fleet with checkouts := ready, jobs := [] }, log } := by
  have among : ∀ (result : Checkout × Nat -> Checkout × Outcome)
      (take : Checkout × Outcome -> Option Checkout),
      (∀ x, (result x).1 = x.1) -> (∀ x c, take x = some c -> c = x.1) ->
      ∀ c ∈ (s.fleet.checkouts.zipIdx.map result).filterMap take, c ∈ s.fleet.checkouts := by
    intro result take own taken c member
    obtain ⟨entry, listed, kept⟩ := List.mem_filterMap.mp member
    obtain ⟨⟨here, i⟩, placed, rfl⟩ := List.mem_map.mp listed
    rw [taken _ c kept, own]
    exact List.mem_of_getElem? (List.mem_zipIdx_iff_getElem?.mp placed)
  unfold Service.keepReady
  dsimp only
  generalize dropped : List.foldl _ s _ = told
  obtain ⟨log, same⟩ : ∃ log, told = { s with log } := by
    rw [← dropped]
    refine foldl_log (fun s e => ?_) _ _
    split
    next => exact ⟨s.log, rfl⟩
    next => exact ⟨_, rfl⟩
  subst same
  split
  all_goals
    refine ⟨_, _, among _ _ (fun _ => rfl) fun x c kept => ?_, rfl⟩
    split at kept <;> cases kept
    rfl

end Service

end FleetSearch
