import FleetSearch.Proofs.Service.Lending
import FleetSearch.Proofs.Web.Effects

set_option autoImplicit false

namespace FleetSearch

open FleetSearch.Checkout FleetSearch.Search

namespace Lending

variable {l next : Lending}

theorem Step.kept (step : l.Step next) (kept : l.Kept l.service.searches.runs) :
    next.Kept next.service.searches.runs := by
  cases step with
  | search _ goes => exact (goes.kept kept).1
  | apart a other apart after fleet searches scopes =>
    have length : after.fleet.checkouts.length = l.service.fleet.checkouts.length := by
      rw [fleet, Fleet.act_length]
    have place : after.placeOf = l.service.placeOf := by
      funext run i
      rw [Service.placeOf, Service.placeOf, length, scopes]
    have shared := kept.shared.act kept.queueing a other apart
    have queueing := kept.queueing.act a
    rw [← fleet] at shared queueing
    have lent := kept.lent.enter after.fleet
    rw [← place] at lent
    rw [searches]
    refine ⟨queueing, shared, lent, ?_, ?_, ?_, kept.controlled, kept.living⟩
    · rw [scopes]
      exact kept.paired
    · rw [scopes, length]
      exact kept.known
    · rw [scopes]
      exact kept.ranged

theorem start_untouched {catalog : Catalog} {volume : Disk.Volume} {s : Service}
    (started : Service.start catalog volume = .ok s) : s.Untouched := by
  unfold Service.start Service.ofCheckouts Fleet.start at started
  cases pool : Permits.start catalog.maxSyncs with
  | error fault => simp [pool, bind, Except.bind] at started
  | ok permits =>
    simp only [pool, bind, Except.bind, pure, Except.pure] at started
    cases started
    refine ⟨rfl, rfl, fun c member => ?_, rfl, rfl⟩
    obtain ⟨repo, _, rfl⟩ := List.mem_map.mp member
    rfl

theorem untouched_kept {s : Service} (untouched : s.Untouched) :
    ({ service := s } : Lending).Kept s.searches.runs := by
  obtain ⟨runs, scopes, trees, jobs, queue⟩ := untouched
  rw [runs]
  refine ⟨⟨by simp [queue], by simp [queue]⟩, ?_, Traffic.lent_nil _, by simp [scopes],
    by simp [scopes], by simp, by simp, by simp⟩
  exact Traffic.shared_nil (fun i c here => trees c (List.mem_of_getElem? here)) jobs

theorem steps_kept {s : Service} (untouched : s.Untouched)
    (steps : Relation.ReflTransGen Step { service := s } l) : l.Kept l.service.searches.runs := by
  induction steps with
  | refl => exact untouched_kept untouched
  | tail _ step ih => exact step.kept ih

-- Every probe that was called has one loan, of the tree of its checkout, until it is released; it
-- waits for the tree only while the tree is written.
structure Accounted (l : Lending) : Prop where
  once : l.loans.Pairwise fun a b => ¬ (a.run = b.run ∧ a.place = b.place)
  called : ∀ loan ∈ l.loans, ∃ r i, l.service.searches.runs[loan.run]? = some r ∧
    loan.place = r.offset + i ∧ (r.seat i).isCalled = true
  lent : ∀ (k : Nat) (r : Run Candidates) (i : Nat), l.service.searches.runs[k]? = some r ->
    (r.seat i).isCalled = true -> ∃ loan ∈ l.loans, loan.run = k ∧ loan.place = r.offset + i ∧
      loan.checkout = l.service.placeOf k (r.offset + i) ∧
      (loan.stage = .returned ↔ r.seat i = .released)
  asks : ∀ loan ∈ l.loans, loan.stage ≠ .returned ->
    (loan.stage = .asked ↔ l.service.fleet.isWritten loan.checkout = true)

namespace Kept

variable {runs : List (Run Candidates)}

theorem counts (kept : l.Kept runs) (i : Nat) :
    l.service.fleet.outstanding i = l.loans.countP (Loan.has i) := by
  rw [Fleet.outstanding]
  cases here : l.service.fleet.checkout? i with
  | some c => exact (kept.shared.counted i c here).1
  | none =>
    symm
    apply List.countP_eq_zero.mpr
    intro loan member has
    obtain ⟨r, j, there, place, fits⟩ := kept.lent.owed loan member
    have own : loan.checkout = i ∧ loan.stage = .given := by simpa [Loan.has] using has
    rw [own.2] at fits
    have called : seatAt r.seats j ≠ .waiting := fun waits => by
      simp [waits, Traffic.Fits, Seat.isCalled] at fits
    have placed := kept.placed there (kept.inside there called)
    rw [← place, ← kept.lent.placed loan member, own.1] at placed
    rw [Fleet.checkout?, List.getElem?_eq_none_iff] at here
    omega

theorem accounted (kept : l.Kept l.service.searches.runs) : l.Accounted := by
  refine ⟨kept.lent.once, fun loan member => ?_, fun k r i there called => ?_,
    fun loan member out => ?_⟩
  · obtain ⟨r, i, there, place, fits⟩ := kept.lent.owed loan member
    refine ⟨r, i, there, place, ?_⟩
    change (seatAt r.seats i).isCalled = true
    cases stage : loan.stage <;> simp_all [Traffic.Fits, Seat.isCalled]
  · obtain ⟨loan, member, run, place⟩ := kept.lent.lent k r i there called
    have fits := kept.lent.fits there member ⟨run, place⟩
    refine ⟨loan, member, run, place, ?_, ?_⟩
    · rw [kept.lent.placed loan member, run, place]
    · change loan.stage = .returned ↔ seatAt r.seats i = .released
      cases stage : loan.stage <;> simp_all [Traffic.Fits]
  · constructor
    next => exact kept.shared.entered loan member
    next =>
      intro written
      cases stage : loan.stage with
      | asked => rfl
      | returned => exact absurd stage out
      | given =>
        -- whoever has a tree counts among its readers, and nobody reads what is written
        cases here : l.service.fleet.checkout? loan.checkout with
        | none => simp [Fleet.isWritten, here] at written
        | some c =>
          have writes : c.tree.writing = true := by simpa [Fleet.isWritten, here] using written
          have alone := (kept.shared.locked _ c here).apart writes
          have has : Loan.has loan.checkout loan = true := by simp [Loan.has, stage]
          have some := List.countP_pos_iff.mpr ⟨loan, member, has⟩
          rw [← (kept.shared.counted _ c here).1, alone] at some
          omega

theorem returned (kept : l.Kept l.service.searches.runs) (none : l.service.searches.tasks = 0)
    (i : Nat) : l.service.fleet.outstanding i = 0 := by
  rw [kept.counts, List.countP_eq_zero]
  intro loan member has
  obtain ⟨r, j, there, place, fits⟩ := kept.lent.owed loan member
  have given : loan.stage = .given := by
    simp only [Loan.has, Bool.and_eq_true, decide_eq_true_eq] at has
    exact has.2
  rw [given] at fits
  have idle := (Runs.vacant_of_tasks none loan.run r there).seats j
  have lives := kept.living loan.run r there j
  cases seat : seatAt r.seats j <;> simp_all [Seat.isBusy, Seat.isCalled, Traffic.Fits]

theorem ready (kept : l.Kept runs) (calm : ∀ i, l.service.fleet.isWritten i = false) (k i : Nat) :
    l.Ready k i := by
  intro r _ loan member _ _ asked
  have written := kept.shared.entered loan member asked
  simp [calm] at written

end Kept

theorem follow_written (s : Service) (run : Nat)
    (step : Runs Candidates × List (Notice Candidates)) (i : Nat) :
    (s.follow run step).fleet.isWritten i = s.fleet.isWritten i := by
  have noted := noted_fold step.2 { service := { s with searches := step.1 } }
  rw [fold_service] at noted
  simp only [Service.follow]
  split <;> exact noted.written i

theorem endCall_service (l : Lending) (c : Started) :
    (l.endCall c).service = l.service.endCall c := by
  cases call : c.call <;> simp only [endCall, Service.endCall, call, follow]

theorem endCall_written (s : Service) (c : Started) (i : Nat) :
    (s.endCall c).fleet.isWritten i = s.fleet.isWritten i := by
  rw [Service.endCall]
  split <;> exact follow_written ..

theorem drain_steps (fuel : Nat) (l : Lending) (kept : l.Kept l.service.searches.runs)
    (calm : ∀ i, l.service.fleet.isWritten i = false) :
    ∃ loans, Relation.ReflTransGen Step l { service := l.service.drainFrom fuel, loans } := by
  induction fuel generalizing l with
  | zero => exact ⟨l.loans, .refl⟩
  | succ fuel ih =>
    rw [Service.drainFrom]
    cases l.service.nextCall? with
    | none => exact ⟨l.loans, .refl⟩
    | some c =>
      have goes : l.Searches (l.endCall c) := .endCall c fun _ _ _ => kept.ready calm _ _
      have written : ∀ i, (l.endCall c).service.fleet.isWritten i = false := fun i => by
        rw [endCall_service, endCall_written, calm]
      obtain ⟨loans, steps⟩ := ih (l.endCall c) (goes.kept kept).1 written
      rw [endCall_service] at steps
      exact ⟨loans, .head (.search _ goes) steps⟩

theorem search_steps (kept : l.Kept l.service.searches.runs)
    (calm : ∀ i, l.service.fleet.isWritten i = false) (scope : List Nat) (request : Request)
    (known : ∀ i ∈ scope, i < l.service.fleet.checkouts.length) :
    ∃ loans, Relation.ReflTransGen Step l
      { service := (l.service.search scope request).2, loans } := by
  have goes : l.Searches (l.beginSearch scope request) := .beginSearch scope request known
  have written : ∀ i, (l.beginSearch scope request).service.fleet.isWritten i = false := fun i =>
    (follow_written _ _ _ i).trans (calm i)
  obtain ⟨loans, steps⟩ := drain_steps _ (l.beginSearch scope request) (goes.kept kept).1 written
  exact ⟨loans, .head (.search _ goes) steps⟩

theorem requests_steps (targets : List Nat) (l : Lending) :
    ∃ loans, Relation.ReflTransGen Step l
      { service := targets.foldl (fun s i => s.requestSync i .update) l.service, loans } := by
  induction targets generalizing l with
  | nil => exact ⟨l.loans, .refl⟩
  | cons i rest ih =>
    have step : l.Step { service := l.service.requestSync i .update, loans := l.loans.map _ } :=
      .apart (.request i .update) nofun nofun (l.service.requestSync i .update) rfl rfl rfl
    obtain ⟨loans, steps⟩ := ih _
    exact ⟨loans, .head step steps⟩

theorem answer_steps (kept : l.Kept l.service.searches.runs)
    (calm : ∀ i, l.service.fleet.isWritten i = false) (routes : Web.Routes) (request : Web.Request) :
    ∃ loans, Relation.ReflTransGen Step l
      { service := (Web.answer routes l.service request).2, loans } := by
  have effect := Web.answer_effect routes l.service request
  generalize (Web.answer routes l.service request).2 = last at effect ⊢
  cases effect with
  | none => exact ⟨l.loans, .refl⟩
  | search scope inside request => exact search_steps kept calm scope request inside
  | syncs targets => exact requests_steps targets l

/-- However searches and syncs go on together, a checkout counts the probes that have its tree and
have not been released, none when nothing works for a search any more; and no search gives back a
tree that nobody has. All requests are such steps. -/
theorem no_tree_leaks {start : Service} (untouched : start.Untouched)
    (steps : Relation.ReflTransGen Step { service := start } l) :
    l.Accounted ∧
    (∀ i, l.service.fleet.outstanding i = l.loans.countP (Loan.has i)) ∧
    (l.service.searches.tasks = 0 -> ∀ i, l.service.fleet.outstanding i = 0) ∧
    (∀ next, l.Searches next -> Quiet l.service next.service) ∧
    ((∀ i, l.service.fleet.isWritten i = false) ->
      (∀ scope request, (∀ i ∈ scope, i < l.service.fleet.checkouts.length) ->
        ∃ loans, Relation.ReflTransGen Step l
          { service := (l.service.search scope request).2, loans }) ∧
      ∀ routes request, ∃ loans, Relation.ReflTransGen Step l
        { service := (Web.answer routes l.service request).2, loans }) := by
  have kept := steps_kept untouched steps
  refine ⟨kept.accounted, kept.counts, kept.returned, fun next goes => (goes.kept kept).2,
    fun calm => ⟨?_, answer_steps kept calm⟩⟩
  exact fun scope request known => search_steps kept calm scope request known

def besideGone : Service where
  catalog := default
  volume := { root := .dir [("r", .dir [])] }
  fleet :=
    { checkouts := [{ repo := default, dir := "r" }, { repo := default, dir := "gone" }], permits := 1 }
  searches := .idle 3 9

def overlap : Lending :=
  let first := ({ service := besideGone } : Lending).beginSearch [0, 1] { query := "x", limit := 2 }
  let second := first.beginSearch [0] { query := "x", limit := 2 }
  second.follow 1 (second.service.searches.abort 1)

def lastProbes : List Started := [⟨.probe, 0, 1⟩, ⟨.probe, 0, 0⟩, ⟨.probe, 1, 0⟩]

theorem overlap_steps : Relation.ReflTransGen Step { service := besideGone } overlap :=
  .tail (.tail (.tail .refl
    (.search _ (.beginSearch [0, 1] { query := "x", limit := 2 } (by decide))))
    (.search _ (.beginSearch [0] { query := "x", limit := 2 } (by decide))))
    (.search _ (.abort 1))

theorem overlap_ends :
    Relation.ReflTransGen Step { service := besideGone } (lastProbes.foldl endCall overlap) := by
  have ends : ∀ (l : Lending) (c : Started), (∀ loan ∈ l.loans, loan.stage ≠ .asked) ->
      l.Step (l.endCall c) := fun l c given =>
    .search _ (.endCall c fun _ _ _ _ _ loan member _ _ => given loan member)
  exact .tail (.tail (.tail overlap_steps
    (ends overlap ⟨.probe, 0, 1⟩ (by decide +kernel)))
    (ends (overlap.endCall ⟨.probe, 0, 1⟩) ⟨.probe, 0, 0⟩ (by decide +kernel)))
    (ends ((overlap.endCall ⟨.probe, 0, 1⟩).endCall ⟨.probe, 0, 0⟩) ⟨.probe, 1, 0⟩
      (by decide +kernel))

theorem overlap_comes_back :
    besideGone.Untouched ∧
      Relation.ReflTransGen Step { service := besideGone } overlap ∧
      overlap.loans.map Loan.checkout = [0, 1, 0] ∧
      overlap.service.fleet.outstanding 0 = 2 ∧
      ∃ last, Relation.ReflTransGen Step { service := besideGone } last ∧
        last.service.log.map Entry.text = ["Search failed: : Checkout gone is not available"] ∧
        ∀ i, last.service.fleet.outstanding i = 0 := by
  have untouched : besideGone.Untouched := by
    refine ⟨rfl, rfl, fun c member => ?_, rfl, rfl⟩
    simp only [besideGone, List.mem_cons, List.not_mem_nil, or_false] at member
    rcases member with rfl | rfl <;> rfl
  obtain ⟨_, counts, _⟩ := no_tree_leaks untouched overlap_steps
  obtain ⟨_, _, returned, _⟩ := no_tree_leaks untouched overlap_ends
  refine ⟨untouched, overlap_steps, by decide +kernel, ?_, _, overlap_ends, by decide +kernel,
    returned (by decide +kernel)⟩
  rw [counts]
  decide +kernel

end Lending

end FleetSearch
