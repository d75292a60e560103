import FleetSearch.Proofs.Search.Waiting
import FleetSearch.Proofs.Sync.Traffic

set_option autoImplicit false

/-!
Who waits for whom. A run waits for its calls, a probe that has ended for its run, a probe without
its tree for the sync that writes it, and a sync for a permit, for the writer or for those who have
the tree. Nobody waits in a circle: a sync that writes waits for nobody, and a sync that only waits
for a tree keeps no probe from it.
-/

namespace FleetSearch

open FleetSearch.Search

def Search.Seat.isKept {P : Type} : Seat P -> Bool
  | .reported _ => true
  | .held _ => true
  | .fetched _ => true
  | _ => false

inductive Party where
  | run (k : Nat)
  -- a probe of run `k` until it is released, with its fetch
  | probe (k i : Nat)
  | sync (j : Nat)
deriving DecidableEq

namespace Traffic

variable {P : Type}

inductive WaitsFor (t : Traffic P) : Party -> Party -> Prop
  | gate (k i : Nat) (r : Run P) (there : t.searches.runs[k]? = some r)
      (kept : (r.seat i).isKept = true) : WaitsFor t (.probe k i) (.run k)
  | call (k i : Nat) (r : Run P) (there : t.searches.runs[k]? = some r)
      (executes : r.isProbing i = true ∨ r.isFetching i = true) :
    WaitsFor t (.run k) (.probe k i)
  | tree (k i j : Nat) (r : Run P) (loan : Loan) (there : t.searches.runs[k]? = some r)
      (member : loan ∈ t.loans) (own : loan.run = k ∧ loan.place = r.offset + i)
      (asked : loan.stage = .asked) (works : t.fleet.Works loan.checkout j) :
    WaitsFor t (.probe k i) (.sync j)
  | holder (j k i : Nat) (job : Sync.Job) (wait : Sync.Wait) (r : Run P) (loan : Loan)
      (asks : t.fleet.jobs[j]? = some job) (waits : job.stage = .waiting wait)
      (there : t.searches.runs[k]? = some r) (member : loan ∈ t.loans)
      (own : loan.run = k ∧ loan.place = r.offset + i) (same : loan.checkout = job.repo)
      (kept : loan.stage ≠ .returned) : WaitsFor t (.sync j) (.probe k i)
  | writer (j l : Nat) (job : Sync.Job) (wait : Sync.Wait) (asks : t.fleet.jobs[j]? = some job)
      (waits : job.stage = .waiting wait) (works : t.fleet.Works job.repo l) :
    WaitsFor t (.sync j) (.sync l)
  | permit (j l : Nat) (job other : Sync.Job) (asks : t.fleet.jobs[j]? = some job)
      (queued : job.stage = .queued) (has : t.fleet.jobs[l]? = some other)
      (active : other.stage.isActive = true) : WaitsFor t (.sync j) (.sync l)
  | ahead (j l : Nat) (late : j ∈ t.fleet.queue) (early : l ∈ t.fleet.queue)
      (before : t.fleet.queue.idxOf l < t.fleet.queue.idxOf j) : WaitsFor t (.sync j) (.sync l)

inductive Free (t : Traffic P) : Party -> Prop
  | run (k : Nat) (r : Run P) (there : t.searches.runs[k]? = some r) (goes : r.next ≠ none) :
    Free t (.run k)
  -- the worker is there, and makes its call
  | call (k i : Nat) (r : Run P) (there : t.searches.runs[k]? = some r)
      (spawned : r.seat i = .spawned) : Free t (.probe k i)
  -- the call executes, and has its tree
  | probe (k i : Nat) (r : Run P) (there : t.searches.runs[k]? = some r)
      (executes : r.isProbing i = true) (ready : t.Ready (.move k (.endProbe i))) :
    Free t (.probe k i)
  | fetch (k i : Nat) (r : Run P) (there : t.searches.runs[k]? = some r)
      (executes : r.isFetching i = true) : Free t (.probe k i)
  | release (k i : Nat) (r : Run P) (there : t.searches.runs[k]? = some r)
      (opened : r.seat i = .freed) : Free t (.probe k i)
  | work (j i : Nat) (works : t.fleet.Works i j) : Free t (.sync j)
  | claim (j : Nat) (job : Sync.Job) (wait : Sync.Wait) (asks : t.fleet.jobs[j]? = some job)
      (waits : job.stage = .waiting wait) (free : t.fleet.isTreeFree job.repo = true) :
    Free t (.sync j)

inductive Over (t : Traffic P) : Party -> Prop
  | noRun (k : Nat) (absent : t.searches.runs[k]? = none) : Over t (.run k)
  | run (k : Nat) (r : Run P) (there : t.searches.runs[k]? = some r) (settled : r.next = none)
      (ended : r.outcome? ≠ none ∨ r.phase = .aborted) : Over t (.run k)
  | noProbe (k i : Nat) (absent : t.searches.runs[k]? = none) : Over t (.probe k i)
  | probe (k i : Nat) (r : Run P) (there : t.searches.runs[k]? = some r)
      (seat : r.seat i = .waiting ∨ r.seat i = .released) : Over t (.probe k i)
  | noSync (j : Nat) (absent : t.fleet.jobs[j]? = none) : Over t (.sync j)
  | sync (j : Nat) (job : Sync.Job) (outcome : Sync.Outcome) (there : t.fleet.jobs[j]? = some job)
      (done : job.stage = .done outcome) : Over t (.sync j)

theorem Over.of_run {t : Traffic P} {k : Nat} {r : Run P} (past : t.Over (.run k))
    (there : t.searches.runs[k]? = some r) :
    r.next = none ∧ (r.outcome? ≠ none ∨ r.phase = .aborted) := by
  cases past with
  | noRun k absent => simp [there] at absent
  | run k found here settled ended =>
    obtain rfl : r = found := by simpa [there] using here
    exact ⟨settled, ended⟩

theorem Over.of_probe {t : Traffic P} {k i : Nat} {r : Run P} (past : t.Over (.probe k i))
    (there : t.searches.runs[k]? = some r) : r.seat i = .waiting ∨ r.seat i = .released := by
  cases past with
  | noProbe k i absent => simp [there] at absent
  | probe k i found here seat =>
    obtain rfl : r = found := by simpa [there] using here
    exact seat

theorem Over.of_sync {t : Traffic P} {j : Nat} {job : Sync.Job} (past : t.Over (.sync j))
    (there : t.fleet.jobs[j]? = some job) : ∃ outcome, job.stage = .done outcome := by
  cases past with
  | noSync j absent => simp [there] at absent
  | sync j found outcome here done =>
    obtain rfl : job = found := by simpa [there] using here
    exact ⟨outcome, done⟩

inductive Lost (t : Traffic P) : Party -> Prop
  | probe (k i : Nat) (r : Run P) (there : t.searches.runs[k]? = some r) (seat : r.seat i = .lost) :
    Lost t (.probe k i)

-- Whoever waits does so for somebody of a lower rank.
def rank (t : Traffic P) : Party -> Nat
  | .run _ => 2
  | .probe k i =>
    match t.searches.runs[k]? with
    | some r => if (r.seat i).isKept then 3 else 1
    | none => 1
  | .sync j =>
    match t.fleet.jobs[j]? with
    | some { stage := .queued, .. } => 5 + t.fleet.queue.idxOf j
    | some { stage := .waiting _, .. } => 4
    | _ => 0

namespace Orderly

variable {sources : Nat -> List (Source P)} {scope : Nat -> Nat -> Nat} {t : Traffic P}

theorem rank_works {i j : Nat} (works : t.fleet.Works i j) : t.rank (.sync j) = 0 := by
  obtain ⟨job, there, _, stage⟩ := works
  cases job
  simp only at stage
  subst stage
  simp [rank, there]

theorem rank_waiting {j : Nat} {job : Sync.Job} {wait : Sync.Wait}
    (there : t.fleet.jobs[j]? = some job) (waits : job.stage = .waiting wait) :
    t.rank (.sync j) = 4 := by
  cases job
  simp only at waits
  subst waits
  simp [rank, there]

theorem rank_queued {j : Nat} {job : Sync.Job} (there : t.fleet.jobs[j]? = some job)
    (queued : job.stage = .queued) : t.rank (.sync j) = 5 + t.fleet.queue.idxOf j := by
  cases job
  simp only at queued
  subst queued
  simp [rank, there]

theorem rank_lt (orderly : t.Orderly sources scope) {p q : Party} (waits : t.WaitsFor p q) :
    t.rank q < t.rank p := by
  cases waits with
  | gate k i r there kept => simp [rank, there, kept]
  | call k i r there executes =>
    have moves : (r.seat i).isKept = false := by
      rw [Run.isProbing, Run.isFetching] at executes
      cases seat : r.seat i <;> simp_all [Seat.isProbing, Seat.isFetching, Seat.isKept]
    simp [rank, there, moves]
  | tree k i j r loan there member own asked works =>
    have seat := orderly.lent.fits there member own
    rw [asked] at seat
    obtain seat : r.seat i = .probing := seat
    rw [rank_works works]
    simp [rank, there, seat, Seat.isKept]
  | holder j k i job wait r loan asks waits there =>
    -- a probe stands above the run that keeps its gate, and below every sync that waits
    rw [rank_waiting asks waits]
    simp only [rank, there]
    split <;> omega
  | writer j l job wait asks waits works =>
    rw [rank_waiting asks waits, rank_works works]
    omega
  | permit j l job other asks queued has active =>
    rw [rank_queued asks queued]
    cases stage : other.stage with
    | waiting wait =>
      rw [rank_waiting has stage]
      omega
    | working =>
      rw [rank_works ⟨other, has, rfl, stage⟩]
      omega
    | _ => simp [stage, Sync.Stage.isActive] at active
  | ahead j l late early before =>
    obtain ⟨job, there, queued⟩ := orderly.queueing.queued j late
    obtain ⟨other, here, waits⟩ := orderly.queueing.queued l early
    rw [rank_queued there queued, rank_queued here waits]
    omega

theorem opened (orderly : t.Orderly sources scope) {k i : Nat} {r : Run P}
    (there : t.searches.runs[k]? = some r) (settled : r.next = none)
    (ended : r.outcome? ≠ none ∨ r.phase = .aborted) : (r.seat i).isKept = false := by
  obtain ⟨width, lawful, _⟩ := orderly.lawful there
  have held := lawful.controlled
  have flags := held.flagged.phase
  obtain ⟨_, _, reaped, _⟩ := Run.still_of_next settled
  have reaps : r.listening = r.reaping := by
    rcases ended with ended | aborted
    · cases phase : r.phase <;> simp_all [Run.outcome?]
    · rw [aborted] at flags
      exact flags
  have mail : r.reports = [] := by
    by_contra some
    have reaping : r.reaping = true := reaps ▸ held.flagged.heard some
    rw [Run.reaper?, if_pos reaping, Run.quiet, Option.map_eq_none_iff] at reaped
    exact some (Run.silent_of_reap? reaped).1
  have unreported := held.mailed.reports.members i
  have admitted := held.admitted i
  rw [mail] at unreported
  change (seatAt r.seats i).isKept = false
  rcases ended with ended | aborted
  · cases phase : r.phase <;> cases seat : seatAt r.seats i <;>
      simp_all [Run.outcome?, Phase.admits, Seat.isKept, Seat.isReported, Seat.isHeld,
        Seat.isFetched]
  · cases seat : seatAt r.seats i <;>
      simp_all [Phase.admits, Seat.isKept, Seat.isReported, Seat.isHeld, Seat.isFetched]

theorem run_stands (orderly : t.Orderly sources scope) (k : Nat) :
    t.Over (.run k) ∨ t.Free (.run k) ∨ ∃ q, t.WaitsFor (.run k) q := by
  cases there : t.searches.runs[k]? with
  | none => exact .inl (.noRun k there)
  | some r =>
    by_cases settled : r.next = none
    next =>
      by_cases ended : r.outcome? ≠ none ∨ r.phase = .aborted
      next => exact .inl (.run k r there settled ended)
      next =>
        obtain ⟨unfinished, wanted⟩ := not_or.mp ended
        obtain ⟨width, lawful, room⟩ := orderly.lawful there
        have awaits := lawful.awaits room settled (by simpa using unfinished) wanted
        obtain ⟨i, executes⟩ := awaits.executes room
        exact .inr (.inr ⟨_, .call k i r there executes⟩)
    next => exact .inr (.inl (.run k r there settled))

theorem probe_stands (orderly : t.Orderly sources scope) (k i : Nat) :
    t.Over (.probe k i) ∨ t.Lost (.probe k i) ∨ t.Free (.probe k i) ∨
      ∃ q, t.WaitsFor (.probe k i) q := by
  cases there : t.searches.runs[k]? with
  | none => exact .inl (.noProbe k i there)
  | some r =>
    have gate : (r.seat i).isKept = true -> t.WaitsFor (.probe k i) (.run k) := .gate k i r there
    cases seat : r.seat i with
    | waiting => exact .inl (.probe k i r there (.inl seat))
    | released => exact .inl (.probe k i r there (.inr seat))
    | lost => exact .inr (.inl (.probe k i r there seat))
    | spawned => exact .inr (.inr (.inl (.call k i r there seat)))
    | freed => exact .inr (.inr (.inl (.release k i r there seat)))
    | fetching payload =>
      exact .inr (.inr (.inl (.fetch k i r there (by rw [Run.isFetching, seat]; rfl))))
    | probing =>
      by_cases asks : ∃ loan ∈ t.loans, loan.run = k ∧ loan.place = r.offset + i ∧
          loan.stage = .asked
      next =>
        obtain ⟨loan, member, run, place, asked⟩ := asks
        obtain ⟨j, works⟩ := (orderly.asked_iff member (by simp [asked])).mp asked
        exact .inr (.inr (.inr ⟨_, .tree k i j r loan there member ⟨run, place⟩ asked works⟩))
      next =>
        refine .inr (.inr (.inl (.probe k i r there (by rw [Run.isProbing, seat]; rfl) ?_)))
        intro l m found same here loan member run place asked
        cases same
        obtain rfl : r = found := by simpa [there] using here
        exact asks ⟨loan, member, run, place, asked⟩
    | _ => exact .inr (.inr (.inr ⟨_, gate (by rw [seat]; rfl)⟩))

theorem reader (orderly : t.Orderly sources scope) {i : Nat} {c : Checkout}
    (here : t.fleet.checkout? i = some c) (held : 0 < c.tree.readers) :
    ∃ k j r loan, t.searches.runs[k]? = some r ∧ loan ∈ t.loans ∧
      (loan.run = k ∧ loan.place = r.offset + j) ∧ loan.checkout = i ∧ loan.stage = .given := by
  obtain ⟨readers, _⟩ := orderly.shared.counted i c here
  obtain ⟨loan, member, has⟩ := List.countP_pos_iff.mp (readers ▸ held)
  obtain ⟨r, j, there, place, _⟩ := orderly.lent.owed loan member
  have has : loan.checkout = i ∧ loan.stage = .given := by simpa [Loan.has] using has
  exact ⟨loan.run, j, r, loan, there, member, ⟨rfl, place⟩, has⟩

theorem sync_stands (orderly : t.Orderly sources scope) (j : Nat) :
    t.Over (.sync j) ∨ t.Free (.sync j) ∨ ∃ q, t.WaitsFor (.sync j) q := by
  cases there : t.fleet.jobs[j]? with
  | none => exact .inl (.noSync j there)
  | some job =>
    cases stage : job.stage with
    | done outcome => exact .inl (.sync j job outcome there stage)
    | working => exact .inr (.inl (.work j job.repo ⟨job, there, rfl, stage⟩))
    | queued =>
      obtain ⟨l, other, has, active⟩ := orderly.served.behind there stage
      exact .inr (.inr ⟨_, .permit j l job other there stage has active⟩)
    | waiting wait =>
      have known := orderly.served.known j job there
      have here : t.fleet.checkout? job.repo = some t.fleet.checkouts[job.repo] :=
        List.getElem?_eq_getElem known
      generalize t.fleet.checkouts[job.repo] = c at here
      cases free : c.tree.isFree with
      | true =>
        have claims : t.fleet.isTreeFree job.repo = true := by simp [Fleet.isTreeFree, here, free]
        exact .inr (.inl (.claim j job wait there stage claims))
      | false =>
        cases writing : c.tree.writing with
        | true =>
          obtain ⟨l, works⟩ := (orderly.shared.locked _ c here).writer.mp writing
          exact .inr (.inr ⟨_, .writer j l job wait there stage works⟩)
        | false =>
          have held : 0 < c.tree.readers := by
            simp [Tree.isFree, writing] at free
            omega
          obtain ⟨k, i, r, loan, run, member, own, same, given⟩ := orderly.reader here held
          have kept : loan.stage ≠ .returned := by simp [given]
          exact .inr (.inr ⟨_, .holder j k i job wait r loan there stage run member own same kept⟩)

theorem not_over (orderly : t.Orderly sources scope) {p q : Party} (waits : t.WaitsFor p q) :
    ¬ t.Over q := by
  intro past
  cases waits with
  | gate k i r there kept =>
    obtain ⟨settled, ended⟩ := past.of_run there
    simp [orderly.opened there settled ended] at kept
  | call k i r there executes =>
    rcases past.of_probe there with seat | seat <;>
      simp [Run.isProbing, Run.isFetching, seat, Seat.isProbing, Seat.isFetching] at executes
  | holder j k i job wait r loan asks waits there member own same kept =>
    have fits : Fits loan.stage (r.seat i) := orderly.lent.fits there member own
    rcases past.of_probe there with seat | seat <;> cases stage : loan.stage <;>
      simp_all [Fits, Seat.isCalled]
  | tree k i j r loan there member own asked works =>
    obtain ⟨job, has, _, stage⟩ := works
    simpa [stage] using past.of_sync has
  | writer j l job wait asks waits works =>
    obtain ⟨job, has, _, stage⟩ := works
    simpa [stage] using past.of_sync has
  | permit j l job other asks queued has active =>
    obtain ⟨outcome, done⟩ := past.of_sync has
    simp [done, Sync.Stage.isActive] at active
  | ahead j l late early before =>
    obtain ⟨job, has, queued⟩ := orderly.queueing.queued l early
    simpa [queued] using past.of_sync has

theorem rank_lt_of_chain (orderly : t.Orderly sources scope) {p q : Party}
    (chain : Relation.TransGen t.WaitsFor p q) : t.rank q < t.rank p := by
  induction chain with
  | single waits => exact orderly.rank_lt waits
  | tail _ waits ih => exact Nat.lt_trans (orderly.rank_lt waits) ih

theorem leads (orderly : t.Orderly sources scope) (p : Party) (going : ¬ t.Over p) :
    ∃ q, Relation.ReflTransGen t.WaitsFor p q ∧ (t.Free q ∨ t.Lost q) := by
  induction rank : t.rank p using Nat.strongRecOn generalizing p with
  | _ n ih =>
    have stands : t.Lost p ∨ t.Free p ∨ ∃ q, t.WaitsFor p q := by
      cases p with
      | run k => exact .inr ((orderly.run_stands k).resolve_left going)
      | probe k i => exact (orderly.probe_stands k i).resolve_left going
      | sync j => exact .inr ((orderly.sync_stands j).resolve_left going)
    obtain lost | free | ⟨q, waits⟩ := stands
    · exact ⟨p, .refl, .inr lost⟩
    · exact ⟨p, .refl, .inl free⟩
    · obtain ⟨last, chain, goes⟩ := ih _ (rank ▸ orderly.rank_lt waits) q (orderly.not_over waits) rfl
      exact ⟨last, .head waits chain, goes⟩

-- Only a sync waits for a probe whose worker died, and it gives up in time.
theorem gives_up (orderly : t.Orderly sources scope) {p q : Party} (waits : t.WaitsFor p q)
    (lost : t.Lost q) : ∃ j now n, p = .sync j ∧
      ((t.fleet.wait now).attempt j).outcome? j = some (.deferred n) := by
  cases lost with
  | probe k i r there seat =>
    cases waits with
    | call k i found here executes =>
      obtain rfl : r = found := by simpa [there] using here
      simp [Run.isProbing, Run.isFetching, seat, Seat.isProbing, Seat.isFetching] at executes
    | holder j k i job wait found loan asks waits here member own same kept =>
      obtain rfl : r = found := by simpa [there] using here
      have given : loan.stage = .given := by
        have fits : Fits loan.stage (r.seat i) := orderly.lent.fits there member own
        cases stage : loan.stage <;> simp_all [Fits]
      have known := orderly.served.known j job asks
      have place : t.fleet.checkout? job.repo = some t.fleet.checkouts[job.repo] :=
        List.getElem?_eq_getElem known
      have readers : t.fleet.checkouts[job.repo].tree.readers ≠ 0 := by
        rw [(orderly.shared.counted _ _ place).1, ne_eq, List.countP_eq_zero]
        exact fun nobody => nobody loan member (by simp [Loan.has, same, given])
      have held : t.fleet.isTreeFree job.repo = false := by
        simp [Fleet.isTreeFree, place, Tree.isFree, readers]
      have late := Nat.max_le.mp (Nat.le_max_right t.fleet.now (max wait.due wait.deadline))
      have queueing : (t.fleet.wait (max wait.due wait.deadline)).Queueing :=
        orderly.queueing.act (.wait _)
      exact ⟨j, _, _, rfl, Fleet.attempt_late queueing asks waits held late.1 late.2⟩

end Orderly

def endSync (t : Traffic P) (j : Nat) (result : Except String String) : Traffic P :=
  letIn { t with fleet := t.fleet.finish j result }

namespace Orderly

variable {sources : Nat -> List (Source P)} {scope : Nat -> Nat -> Nat} {t : Traffic P}

theorem alone (orderly : t.Orderly sources scope) {i j l : Nat} (works : t.fleet.Works i j)
    (also : t.fleet.Works i l) : j = l := by
  obtain ⟨job, there, same, _⟩ := id works
  have known := same ▸ orderly.served.known j job there
  have here : t.fleet.checkout? i = some t.fleet.checkouts[i] := List.getElem?_eq_getElem known
  exact (orderly.shared.locked i _ here).alone j l works also

theorem work_ends (orderly : t.Orderly sources scope) {i j : Nat} (works : t.fleet.Works i j)
    (result : Except String String) :
    Step sources scope t (t.endSync j result) ∧
      (t.endSync j result).fleet.outcome? j = some (Fleet.outcomeOf result) ∧
      ∀ loan ∈ (t.endSync j result).loans, loan.checkout = i -> loan.stage ≠ .asked := by
  have step : Step sources scope t (t.endSync j result) :=
    .fleet (.finish j result) (fun _ => nofun) (fun _ => nofun) nofun
  refine ⟨step, Fleet.finish_outcome orderly.queueing works result, fun loan member own asked => ?_⟩
  have after := orderly.step step
  obtain ⟨l, still⟩ := (after.asked_iff member (by simp [asked])).mp asked
  obtain ⟨before, other⟩ := (Fleet.works_finish orderly.queueing ⟨i, works⟩ result).mp still
  rw [own] at before
  exact other (orderly.alone before works)

end Orderly

/-- However searches and syncs go on together, a probe waits for its tree if and only if a sync
works on it, and a sync that works waits for nobody; nobody waits in a circle, and whoever waits
does so, at last, for somebody who goes on. -/
theorem no_deadlock (sources : Nat -> List (Source P)) (scope : Nat -> Nat -> Nat)
    (maxProbes nextLimit : Nat) {start t : Traffic P} (fresh : start.Fresh maxProbes nextLimit)
    (steps : Relation.ReflTransGen (Step sources scope) start t) :
    (∀ loan ∈ t.loans, loan.stage ≠ .returned ->
      (loan.stage = .asked ↔ ∃ j, t.fleet.Works loan.checkout j)) ∧
    -- syncs that only wait, and probes that have the tree, keep no probe from starting with it
    (∀ u, t.Ready u -> ∀ n ∈ (t.searches.turn sources u).2, ∀ g, n.event = .probe g ->
      ∃ loan ∈ (t.turn sources scope u).loans, loan.run = n.run ∧ loan.place = g ∧
        loan.checkout = scope n.run g ∧
        (loan.stage = .given ↔ ∀ j, ¬ t.fleet.Works loan.checkout j)) ∧
    (∀ i j, t.fleet.Works i j -> (∀ q, ¬ t.WaitsFor (.sync j) q) ∧
      ∀ result, Step sources scope t (t.endSync j result) ∧
        (t.endSync j result).fleet.outcome? j = some (Fleet.outcomeOf result) ∧
        ∀ loan ∈ (t.endSync j result).loans, loan.checkout = i -> loan.stage ≠ .asked) ∧
    (∀ p, ¬ Relation.TransGen t.WaitsFor p p) ∧
    (∀ p, ¬ t.Over p ->
      ∃ q, Relation.ReflTransGen t.WaitsFor p q ∧ (t.Free q ∨ t.Lost q)) ∧
    -- a probe whose worker died keeps its tree, but no sync waits for it forever
    (∀ p q, t.WaitsFor p q -> t.Lost q -> ∃ j now n, p = .sync j ∧
      ((t.fleet.wait now).attempt j).outcome? j = some (.deferred n)) := by
  have begun : start.Orderly sources scope := .fresh fresh
  have orderly := begun.steps steps
  refine ⟨fun loan member kept => orderly.asked_iff member kept, ?_, fun i j works => ?_,
    fun p circle => Nat.lt_irrefl _ (orderly.rank_lt_of_chain circle), orderly.leads, ?_⟩
  · intro u ready n member g event
    obtain ⟨loan, here, run, place, kept⟩ := orderly.launched ready member event
    have after := orderly.step (.turn u ready)
    have asked := after.asked_iff here kept
    simp only [works_turn] at asked
    refine ⟨loan, here, run, place, by rw [after.lent.placed loan here, run, place], ?_⟩
    rw [← not_exists, ← asked]
    cases stage : loan.stage <;> simp_all
  · refine ⟨fun q waits => ?_, fun result => orderly.work_ends works result⟩
    have lower := orderly.rank_lt waits
    rw [Orderly.rank_works works] at lower
    exact Nat.not_lt_zero _ lower
  · exact fun p q waits lost => orderly.gives_up waits lost

-- Two searches over the same two checkouts, while one of two syncs works and the other waits.
def twoCheckouts : Traffic Unit where
  searches := .idle 10 30
  fleet := { checkouts := [{ repo := default, dir := "x" }, { repo := default, dir := "y" }], permits := 2 }

def everyMatch : List (Source Unit) :=
  [⟨"x", .done { found := true, payload := () }, fun _ => .done {}⟩,
    ⟨"y", .done { found := true, payload := () }, fun _ => .done {}⟩]

theorem twoCheckouts_meet :
    ∃ t, Relation.ReflTransGen (Step (fun _ => everyMatch) fun _ g => g) twoCheckouts t ∧
      t.loans.map Loan.stage = [.asked, .given, .asked, .given] ∧ t.fleet.Works 0 0 ∧
      ∃ r, t.searches.runs[1]? = some r ∧ r.isProbing 0 = true := by
  have begins : ∀ t request,
      Step (fun _ => everyMatch) (fun _ g => g) t (t.turn _ _ (.begin request)) :=
    fun t request => .turn (.begin request) fun _ _ _ other => nomatch other
  have launch : ∀ t k,
      Step (fun _ => everyMatch) (fun _ g => g) t (t.turn _ _ (.move k .launch)) :=
    fun t k => .turn (.move k .launch) fun _ _ _ other => nomatch other
  have call : ∀ t k i,
      Step (fun _ => everyMatch) (fun _ g => g) t (t.turn _ _ (.move k (.call i))) :=
    fun t k i => .turn (.move k (.call i)) fun _ _ _ other => nomatch other
  -- the launcher of run `k` takes a permit and spawns a worker, which makes its call
  have opens : ∀ t k i, Relation.ReflTransGen (Step (fun _ => everyMatch) fun _ g => g) t _ :=
    fun t k i => .tail (.tail (.tail .refl (launch t k)) (launch _ k)) (call _ k i)
  have steps : Relation.ReflTransGen (Step (fun _ => everyMatch) fun _ g => g) twoCheckouts _ :=
    .trans (.trans (.tail (.tail (.trans (.trans (.tail (.tail (.tail .refl
      (.fleet (.request 0 .caller) nofun nofun fun _ _ same => by cases same; decide))
      (.fleet (.attempt 0) nofun nofun nofun))
      (begins _ { query := "x", limit := 2 }))
      (opens _ 0 0))
      (opens _ 0 1))
      (.fleet (.request 1 .caller) nofun nofun fun _ _ same => by cases same; decide +kernel))
      (begins _ { query := "x", limit := 2 }))
      (opens _ 1 0))
      (opens _ 1 1)
  refine ⟨_, steps, by decide +kernel, ⟨_, rfl, rfl, rfl⟩, (Option.any_eq_true _ _).mp ?_⟩
  decide +kernel

theorem twoCheckouts_go_on :
    ∃ t, twoCheckouts.Fresh 10 30 ∧
      Relation.ReflTransGen (Step (fun _ => everyMatch) fun _ g => g) twoCheckouts t ∧
      t.loans.map Loan.stage = [.asked, .given, .asked, .given] ∧ t.fleet.Works 0 0 ∧
      (∀ q, ¬ t.WaitsFor (.sync 0) q) ∧ (∀ p, ¬ Relation.TransGen t.WaitsFor p p) ∧
      ∃ q, Relation.ReflTransGen t.WaitsFor (.probe 1 0) q ∧ (t.Free q ∨ t.Lost q) := by
  have fresh : twoCheckouts.Fresh 10 30 := by
    refine ⟨rfl, rfl, fun i c here => ?_, rfl, rfl, Nat.succ_pos _⟩
    have member := List.mem_of_getElem? here
    simp only [twoCheckouts, List.mem_cons, List.not_mem_nil, or_false] at member
    rcases member with rfl | rfl <;> rfl
  obtain ⟨t, steps, stages, works, r, there, probing⟩ := twoCheckouts_meet
  obtain ⟨_, _, working, circles, leads, _⟩ :=
    no_deadlock (fun _ => everyMatch) (fun _ g => g) 10 30 fresh steps
  refine ⟨t, fresh, steps, stages, works, (working 0 0 works).1, circles,
    leads (.probe 1 0) fun past => ?_⟩
  rcases past.of_probe there with seat | seat <;>
    simp [Run.isProbing, seat, Seat.isProbing] at probing

end Traffic

end FleetSearch
