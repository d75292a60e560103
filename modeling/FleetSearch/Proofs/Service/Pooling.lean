import FleetSearch.Proofs.Service.Launch
import FleetSearch.Proofs.Sync.Pool
import FleetSearch.Proofs.Web.Effects

set_option autoImplicit false

namespace FleetSearch.Service

open FleetSearch.Search FleetSearch.Sync

def Polls (s : Service) : Prop :=
  ∀ p ∈ s.pollers, p.repo < s.fleet.checkouts.length

inductive Goes (s : Service) : Service -> Prop
  -- a sync or a probe goes on, or time does
  | act (a : Fleet.Act)
      (inside : ∀ repo asker, a = .request repo asker -> repo < s.fleet.checkouts.length)
      (next : Service) (fleet : next.fleet = s.fleet.act a) (polls : next.Polls) : Goes s next
  -- anything else
  | beside (next : Service) (fleet : next.fleet = s.fleet) (polls : next.Polls) : Goes s next

variable {s next : Service} {i k width : Nat}

theorem Goes.polls (goes : s.Goes next) : next.Polls := by
  cases goes <;> assumption

theorem polls_of_steps (polls : s.Polls) (steps : Relation.ReflTransGen Goes s next) :
    next.Polls := by
  cases steps with
  | refl => exact polls
  | tail _ last => exact last.polls

theorem Goes.pooled (goes : s.Goes next) (pooled : s.fleet.Pooled width) :
    next.fleet.Pooled width := by
  cases goes with
  | act a inside _ fleet => exact fleet ▸ pooled.act a inside
  | beside _ fleet => exact fleet ▸ pooled

theorem Polls.along (polls : s.Polls)
    (length : next.fleet.checkouts.length = s.fleet.checkouts.length)
    (pollers : ∀ p ∈ next.pollers, ∃ q ∈ s.pollers, p.repo = q.repo) : next.Polls := by
  intro p member
  obtain ⟨q, old, same⟩ := pollers p member
  rw [length, same]
  exact polls q old

theorem goes_act (polls : s.Polls) (a : Fleet.Act)
    (inside : ∀ repo asker, a = .request repo asker -> repo < s.fleet.checkouts.length)
    (fleet : next.fleet = s.fleet.act a)
    (pollers : ∀ p ∈ next.pollers, ∃ q ∈ s.pollers, p.repo = q.repo) : s.Goes next :=
  .act a inside next fleet (polls.along (by rw [fleet, Fleet.act_length]) pollers)

theorem goes_beside (polls : s.Polls) (fleet : next.fleet = s.fleet)
    (pollers : next.pollers = s.pollers) : s.Goes next :=
  .beside next fleet (polls.along (by rw [fleet]) fun p member => ⟨p, pollers ▸ member, rfl⟩)

theorem conclude_fleet (s : Service) (k : Nat) : (s.conclude k).fleet = s.fleet :=
  congrArg Site.fleet (conclude_site s k [])

theorem conclude_pollers (s : Service) (k : Nat) :
    ∀ p ∈ (s.conclude k).pollers, ∃ q ∈ s.pollers, p.repo = q.repo := by
  have rests : ∀ (t : Service) (asker : Asker), t.pollers = s.pollers ->
      ∀ p ∈ (t.rest asker).pollers, ∃ q ∈ s.pollers, p.repo = q.repo := by
    intro t asker same p member
    cases asker with
    | poller k =>
      obtain ⟨place, there⟩ := List.mem_iff_getElem?.mp member
      simp only [Service.rest, List.getElem?_modify] at there
      obtain ⟨q, old, rfl⟩ := Option.map_eq_some_iff.mp there
      refine ⟨q, same ▸ List.mem_of_getElem? old, ?_⟩
      split <;> rfl
    | _ => exact ⟨p, same ▸ member, rfl⟩
  unfold conclude
  split
  next repo asker outcome there =>
    cases outcome <;> cases asker <;> exact rests _ _ rfl
  next => exact fun p member => ⟨p, member, rfl⟩

theorem attempt_goes (polls : s.Polls) (k : Nat) : s.Goes (s.attempt k) :=
  goes_act polls (.attempt k) nofun (conclude_fleet _ k)
    (conclude_pollers { s with fleet := s.fleet.attempt k } k)

theorem work_goes (polls : s.Polls) (k : Nat) : s.Goes (s.work k) := by
  cases there : s.fleet.jobs[k]? with
  | none =>
    have same : s.work k = s := by simp [work, there]
    rw [same]
    exact goes_beside polls rfl rfl
  | some job =>
    have fleet := congrArg Site.fleet (work_site there [])
    refine goes_act polls (.finish k _) nofun fleet fun p member => ?_
    unfold work at member
    simp only [there] at member
    -- the report of a sync only reaches the log, and leaves the pollers as they are
    obtain ⟨q, old, same⟩ := conclude_pollers _ k p member
    let report := Git.sync s.volume (s.checkout job.repo).repo.url (s.checkout job.repo).dir
    obtain ⟨log, noted⟩ : ∃ log, report.notes.foldl (fun s text => s.write .info text)
        { s with volume := report.volume } = { s with volume := report.volume, log } :=
      foldl_log (fun _ _ => ⟨_, rfl⟩) _ _
    rw [noted] at old
    exact ⟨q, old, same⟩

theorem poll_goes (polls : s.Polls) : s.Goes s.poll := by
  have still : s.Goes s := goes_beside polls rfl rfl
  unfold poll
  split
  next => exact still
  next k due =>
    split
    next => exact still
    next p there =>
      refine goes_act polls (.request p.repo (.poller k)) ?_ rfl fun q member => ?_
      · rintro _ _ ⟨⟩
        exact polls p (List.mem_of_getElem? there)
      · rcases List.mem_or_eq_of_mem_set member with old | rfl
        · exact ⟨q, old, rfl⟩
        · exact ⟨p, List.mem_of_getElem? there, rfl⟩

theorem step_goes (polls : s.Polls) (step : s.step? = some next) : s.Goes next := by
  unfold step? at step
  split at step
  next =>
    obtain rfl := Option.some.inj step
    exact poll_goes polls
  next =>
    split at step
    next k _ =>
      obtain rfl := Option.some.inj step
      exact attempt_goes polls k
    next =>
      obtain ⟨k, _, rfl⟩ := Option.map_eq_some_iff.mp step
      exact work_goes polls k

theorem settleFrom_goes (polls : s.Polls) (fuel : Nat) :
    Relation.ReflTransGen Goes s (s.settleFrom fuel) := by
  induction fuel generalizing s with
  | zero => exact .refl
  | succ fuel ih =>
    rw [settleFrom]
    cases step : s.step? with
    | none => exact .refl
    | some next =>
      have goes := step_goes polls step
      exact .head goes (ih goes.polls)

theorem wait_goes (polls : s.Polls) (t : Nat) : s.Goes (s.wait t) :=
  goes_act polls (.wait t) nofun rfl fun p member => ⟨p, member, rfl⟩

theorem runFrom_goes (polls : s.Polls) (stop : Service -> Bool) (target fuel : Nat) :
    Relation.ReflTransGen Goes s (s.runFrom stop target fuel) := by
  induction fuel generalizing s with
  | zero => exact .refl
  | succ fuel ih =>
    have settles := settleFrom_goes polls s.mostSteps
    have later := polls_of_steps polls settles
    have waits : ∀ t, Goes s.settle (s.settle.wait t) := fun t => wait_goes later t
    rw [runFrom]
    split
    next => exact settles
    next =>
      split
      next => exact .tail settles (waits target)
      next t _ =>
        split
        next => exact .trans (.tail settles (waits t)) (ih (waits t).polls)
        next => exact .tail settles (waits target)

theorem await_goes (polls : s.Polls) (stop : Service -> Bool) :
    Relation.ReflTransGen Goes s (s.await stop) :=
  runFrom_goes polls stop _ _

theorem requestSync_goes (polls : s.Polls) (inside : i < s.fleet.checkouts.length) (asker : Asker) :
    s.Goes (s.requestSync i asker) := by
  refine goes_act polls (.request i asker) ?_ rfl fun p member => ⟨p, member, rfl⟩
  rintro _ _ ⟨⟩
  exact inside

theorem sync_goes (polls : s.Polls) (inside : i < s.fleet.checkouts.length) :
    Relation.ReflTransGen Goes s (s.sync i).2 := by
  have asks := requestSync_goes polls inside .caller
  exact .head asks
    (await_goes asks.polls fun t => (t.fleet.outcome? s.fleet.jobs.length).isSome)

theorem requests_goes (polls : s.Polls) (targets : List Nat)
    (inside : ∀ i ∈ targets, i < s.fleet.checkouts.length) (asker : Asker) :
    Relation.ReflTransGen Goes s (targets.foldl (fun s i => s.requestSync i asker) s) := by
  induction targets generalizing s with
  | nil => exact .refl
  | cons i rest ih =>
    obtain ⟨first, others⟩ := List.forall_mem_cons.mp inside
    have asks := requestSync_goes polls first asker
    have length : (s.requestSync i asker).fleet.checkouts.length = s.fleet.checkouts.length :=
      Fleet.act_length s.fleet (.request i asker)
    exact .head asks (ih asks.polls fun j member => length ▸ others j member)

theorem startPollers_goes (polls : s.Polls) : s.Goes s.startPollers := by
  refine .beside _ rfl fun p member => ?_
  rcases List.mem_append.mp member with old | new
  · exact polls p old
  · obtain ⟨⟨c, i⟩, listed, made⟩ := List.mem_filterMap.mp new
    have place := List.mem_zipIdx_iff_getElem?.mp listed
    simp only at made
    split at made
    next =>
      cases made
      exact (List.getElem?_eq_some_iff.mp place).1
    next => cases made

theorem note_goes (polls : s.Polls) (n : Notice Checkout.Candidates) : s.Goes (s.note n) := by
  unfold note
  split
  next i _ =>
    exact goes_act polls (.borrow (s.placeOf n.run i)) nofun rfl fun p member => ⟨p, member, rfl⟩
  next => exact goes_beside polls rfl rfl
  next i _ =>
    unfold giveBack
    dsimp only
    split <;> exact goes_act polls (.giveBack (s.placeOf n.run i)) nofun rfl
      fun p member => ⟨p, member, rfl⟩

theorem follow_goes (polls : s.Polls) (run : Nat)
    (step : Runs Checkout.Candidates × List (Notice Checkout.Candidates)) :
    Relation.ReflTransGen Goes s (s.follow run step) := by
  have notes : ∀ (notices : List (Notice Checkout.Candidates)) (t : Service), t.Polls ->
      Relation.ReflTransGen Goes t (notices.foldl note t) := by
    intro notices
    induction notices with
    | nil => exact fun _ _ => .refl
    | cons n rest ih =>
      intro t polls
      have goes := note_goes polls n
      exact .head goes (ih (t.note n) goes.polls)
  have taken : s.Goes { s with searches := step.1 } := goes_beside polls rfl rfl
  have told := notes step.2 _ taken.polls
  have followed := Relation.ReflTransGen.head taken told
  unfold follow
  dsimp only
  split
  next => exact .tail followed (goes_beside (polls_of_steps polls followed) rfl rfl)
  next => exact followed

theorem drainFrom_goes (polls : s.Polls) (fuel : Nat) :
    Relation.ReflTransGen Goes s (s.drainFrom fuel) := by
  induction fuel generalizing s with
  | zero => exact .refl
  | succ fuel ih =>
    rw [drainFrom]
    split
    next => exact .refl
    next c _ =>
      have ends : Relation.ReflTransGen Goes s (s.endCall c) := by
        unfold endCall
        split <;> exact follow_goes polls _ _
      exact ends.trans (ih (polls_of_steps polls ends))

theorem search_goes (polls : s.Polls) (scope : List Nat) (request : Request) :
    Relation.ReflTransGen Goes s (s.search scope request).2 := by
  have enters : s.Goes { s with scopes := s.scopes ++ [scope] } := goes_beside polls rfl rfl
  have begins : Relation.ReflTransGen Goes s (s.beginSearch scope request) :=
    .head enters (follow_goes enters.polls _ _)
  exact begins.trans (drainFrom_goes (polls_of_steps polls begins) _)

theorem answer_goes (polls : s.Polls) (routes : Web.Routes) (request : Web.Request) :
    Relation.ReflTransGen Goes s (Web.answer routes s request).2 := by
  have effect := Web.answer_effect routes s request
  generalize (Web.answer routes s request).2 = last at effect ⊢
  cases effect with
  | none => exact .refl
  | search scope _ request => exact search_goes polls scope request
  | syncs targets inside => exact requests_goes polls targets inside .update

/-- What a service over a catalog comes to. -/
inductive Running (catalog : Catalog) : Service -> Prop
  | begin (volume : Disk.Volume) (checkouts : List Checkout) (first : Service)
      (trees : ∀ c ∈ checkouts, c.tree = {})
      (begun : ofCheckouts catalog volume checkouts = .ok first) : Running catalog first
  | go (s next : Service) (running : Running catalog s) (goes : s.Goes next) : Running catalog next
  -- the first syncs are over, and what failed is left out
  | ready (s : Service) (running : Running catalog s) (unpolled : s.pollers = [])
      (done : ∀ j ∈ s.fleet.jobs, j.isDone = true) : Running catalog s.keepReady

variable {catalog : Catalog}

theorem Running.along (running : Running catalog s) (steps : Relation.ReflTransGen Goes s next) :
    Running catalog next := by
  induction steps with
  | refl => exact running
  | tail _ goes ih => exact .go _ _ ih goes

theorem ofCheckouts_fleet {volume : Disk.Volume} {checkouts : List Checkout}
    (begun : ofCheckouts catalog volume checkouts = .ok s) :
    s.fleet = { checkouts, permits := max 1 catalog.maxSyncs } ∧ s.pollers = [] := by
  obtain ⟨fleet, made, begun⟩ := Git.bind_ok begun
  obtain ⟨pool, started, made⟩ := Git.bind_ok made
  cases begun
  cases made
  unfold Permits.start at started
  dsimp only at started
  split at started
  next =>
    cases started
    exact ⟨by rw [Nat.max_comm], rfl⟩
  next => cases started

theorem Running.polls (running : Running catalog s) : s.Polls := by
  cases running with
  | begin volume checkouts _ _ begun =>
    rw [Polls, (ofCheckouts_fleet begun).2]
    nofun
  | go _ _ _ goes => exact goes.polls
  | ready s _ unpolled =>
    obtain ⟨ready, log, _, same⟩ := keepReady_eq s
    rw [same, Polls]
    simp [unpolled]

theorem Running.pooled (running : Running catalog s) :
    s.fleet.Pooled (max 1 catalog.maxSyncs) := by
  induction running with
  | begin volume checkouts first trees begun =>
    have some : 0 < max 1 catalog.maxSyncs := Nat.lt_of_lt_of_le Nat.one_pos (Nat.le_max_left ..)
    rw [(ofCheckouts_fleet begun).1]
    exact Fleet.Pooled.fresh (f := { checkouts, permits := max 1 catalog.maxSyncs }) some rfl rfl
      trees
  | go s next _ goes ih => exact goes.pooled ih
  | ready s _ _ done ih =>
    obtain ⟨ready, log, kept, same⟩ := keepReady_eq s
    rw [same]
    exact ih.cleared done kept

theorem launch_running {volume : Disk.Volume} (launched : launch catalog volume = .ok s) :
    Running catalog s := by
  obtain ⟨made, _, launched⟩ := Git.bind_ok launched
  obtain ⟨begun, started, launched⟩ := Git.bind_ok launched
  have started := Git.mapError_ok started
  have running : Running catalog begun :=
    .begin made (checkoutsOf catalog) begun (by simp [checkoutsOf]) started
  obtain ⟨starting, none⟩ := start_starting started
  obtain ⟨asked, _⟩ := starting.requests none begun.fleet.checkouts.length (Nat.le_refl _)
  obtain ⟨last, done⟩ := asked.await
  have asks := running.along (requests_goes running.polls begun.allCheckouts
    (by simp [allCheckouts]) .caller)
  have ends := asks.along (await_goes asks.polls fun s => s.openJobs = 0)
  rw [← Except.ok.inj launched]
  exact .ready _ ends last.unused.pollers done

/-- The syncs that have a permit and the permits that are free make up the pool, whatever goes on,
so all permits are free again when all syncs are done; a sync waits for a permit only while none is
free, and a checkout is worked on by one sync at a time. Launches, pollers, requests and single
syncs are all such courses. -/
theorem permits_come_back (running : Running catalog s) :
    s.fleet.syncing + s.fleet.permits = max 1 catalog.maxSyncs ∧
    ((∃ j ∈ s.fleet.jobs, j.stage = .queued) -> s.fleet.permits = 0) ∧
    ((∀ j ∈ s.fleet.jobs, j.isDone = true) -> s.fleet.permits = max 1 catalog.maxSyncs) ∧
    (∀ i k l, s.fleet.Works i k -> s.fleet.Works i l -> k = l) ∧
    (∀ volume first, launch catalog volume = .ok first -> Running catalog first) ∧
    Running catalog s.startPollers ∧
    (∀ millis, Running catalog (s.advance millis)) ∧
    (∀ i < s.fleet.checkouts.length, Running catalog (s.sync i).2) ∧
    ∀ routes request, Running catalog (Web.answer routes s request).2 := by
  have pooled := running.pooled
  have polls := running.polls
  exact ⟨pooled.balance, pooled.spent, pooled.free, fun _ _ _ one other => pooled.alone one other,
    fun _ _ launched => launch_running launched, .go _ _ running (startPollers_goes polls),
    fun _ => running.along (runFrom_goes polls _ _ _),
    fun i inside => running.along (sync_goes polls inside),
    fun routes request => running.along (answer_goes polls routes request)⟩

def twoPermits : Catalog :=
  { (default : Catalog) with maxSyncs := 2 }

def unsynced : Service where
  catalog := twoPermits
  volume := { root := .dir [("r", .dir [])] }
  fleet :=
    { checkouts :=
        [{ repo := { name := "a", push := some true }, dir := "r" },
          { repo := { name := "b", url := some "u", pollMillis := 20000 }, dir := "b" },
          { repo := { name := "c", push := some true }, dir := "c" }]
      permits := 2 }
  searches := .idle twoPermits.maxProbes twoPermits.nextPage

def oneHeld : Service :=
  unsynced.startPollers.borrow 2

def bothGiven : Service :=
  (Web.answer Web.plainRoutes oneHeld (Web.update "repos=a%2Cc")).2

-- Nothing is tried again until the half minute is over.
def halfMinuteOn : Service :=
  ((bothGiven.sync 1).2.wait 30000).advance 0

theorem bothGiven_running : Running twoPermits bothGiven := by
  have begun : Running twoPermits unsynced := .begin _ _ _ (by decide) rfl
  have polled := begun.along (.single (startPollers_goes begun.polls))
  have held : Running twoPermits oneHeld :=
    .go _ _ polled (.act (.borrow 2) nofun _ rfl polled.polls)
  exact held.along (answer_goes held.polls _ _)

theorem halfMinuteOn_running : Running twoPermits halfMinuteOn := by
  have synced := bothGiven_running.along
    (sync_goes (i := 1) bothGiven_running.polls (by decide +kernel))
  have later := synced.along (.single (wait_goes synced.polls 30000))
  exact later.along (runFrom_goes later.polls _ _ _)

-- Syncs for an update, a caller and a poller end in all three ways.
theorem permits_after_halfMinute :
    (Running twoPermits bothGiven ∧ bothGiven.fleet.syncing = 2 ∧ bothGiven.fleet.permits = 0) ∧
    Running twoPermits halfMinuteOn ∧
    (List.range 4).map halfMinuteOn.fleet.outcome? =
      [some (.synced ""), some (.deferred 1),
        some (.failed "Failed to clone u: unsupported URL protocol; class=Net (12)"),
        some (.failed "Failed to clone u: unsupported URL protocol; class=Net (12)")] ∧
    halfMinuteOn.fleet.permits = 2 := by
  have given := (permits_come_back bothGiven_running).1
  have two : bothGiven.fleet.syncing = 2 := by decide +kernel
  rw [two] at given
  exact ⟨⟨bothGiven_running, two, by simpa [twoPermits] using given⟩, halfMinuteOn_running,
    by decide +kernel, (permits_come_back halfMinuteOn_running).2.2.1 (by decide +kernel)⟩

end FleetSearch.Service
