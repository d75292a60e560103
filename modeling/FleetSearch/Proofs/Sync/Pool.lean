import FleetSearch.Proofs.Sync.Queue

set_option autoImplicit false

/-!
The pool of permits. A sync has one permit from when it leaves the queue until it is done, whatever
comes of it, so the permits that are given out and those that are free always make up the pool; and
nobody waits for a permit while one is free.
-/

namespace FleetSearch.Fleet

open FleetSearch.Sync

def syncing (f : Fleet) : Nat :=
  f.jobs.countP fun j => j.stage.isActive

variable {f : Fleet} {i k width : Nat}

theorem setStage_jobs {j : Job} (there : f.jobs[k]? = some j) (stage : Stage) :
    (f.setStage k stage).jobs = f.jobs.set k { j with stage } := by
  rw [setStage, List.modify_eq_set_getElem?, there]
  rfl

theorem syncing_setStage {j : Job} (there : f.jobs[k]? = some j) (stage : Stage) :
    (f.setStage k stage).syncing + j.stage.isActive.toNat =
      f.syncing + stage.isActive.toNat := by
  rw [syncing, setStage_jobs there]
  exact countP_set _ _ there rfl rfl

theorem balance_freePermit (queueing : f.Queueing) :
    f.freePermit.syncing + f.freePermit.permits = f.syncing + f.permits + 1 := by
  unfold freePermit
  split
  next => exact (Nat.add_assoc ..).symm
  next k rest queue =>
    obtain ⟨j, there, waits⟩ := queueing.queued k (by simp [queue])
    have more := syncing_setStage (f := { f with queue := rest }) there (.waiting (.start f.now))
    rw [waits] at more
    have more : ({ f with queue := rest }.setStage k (.waiting (.start f.now))).syncing =
        f.syncing + 1 := more
    rw [more]
    exact Nat.add_right_comm ..

theorem balance_done (queueing : f.Queueing) {j : Job} (there : f.jobs[k]? = some j)
    (active : j.stage.isActive = true) (outcome : Outcome) :
    (f.setStage k (.done outcome)).freePermit.syncing +
      (f.setStage k (.done outcome)).freePermit.permits = f.syncing + f.permits := by
  have started : j.stage ≠ .queued := fun queued => by simp [queued, Stage.isActive] at active
  have fewer : (f.setStage k (.done outcome)).syncing + 1 = f.syncing := by
    have changed := syncing_setStage there (.done outcome)
    rwa [active] at changed
  rw [balance_freePermit (queueing.setStage (.done outcome) (queueing.out there started)), ← fewer]
  exact Nat.add_right_comm ..

theorem balance_request (f : Fleet) (repo : Nat) (asker : Asker) :
    (f.request repo asker).syncing + (f.request repo asker).permits = f.syncing + f.permits := by
  unfold request
  split
  next spent => simp [syncing, spent, Stage.isActive]
  next permits more =>
    simp only [syncing, more, List.countP_append, List.countP_singleton, Stage.isActive, if_true]
    omega

theorem balance_attempt (queueing : f.Queueing) (k : Nat) :
    (f.attempt k).syncing + (f.attempt k).permits = f.syncing + f.permits := by
  unfold attempt
  split
  next repo asker w there =>
    split
    next =>
      split
      next =>
        have before : (f.changeTree repo Tree.claim).jobs[k]? = some _ := there
        exact congrArg (· + f.permits) (Nat.add_right_cancel (syncing_setStage before .working))
      next w _ =>
        exact congrArg (· + f.permits) (Nat.add_right_cancel (syncing_setStage there (.waiting w)))
      next => exact balance_done queueing there rfl _
    next => rfl
  next => rfl

theorem balance_finish (queueing : f.Queueing) (k : Nat) (result : Except String String) :
    (f.finish k result).syncing + (f.finish k result).permits = f.syncing + f.permits := by
  unfold finish
  split
  next repo asker there =>
    let recorded : Fleet := f.change repo fun c =>
      { c with tree := c.tree.yield, status := c.status.record f.now result }
    have before : recorded.jobs[k]? = some _ := there
    have changed : recorded.Queueing := ⟨queueing.once, queueing.queued⟩
    exact balance_done changed before rfl _
  next => rfl

theorem balance_act (queueing : f.Queueing) (a : Act) :
    (f.act a).syncing + (f.act a).permits = f.syncing + f.permits := by
  cases a with
  | borrow i => rfl
  | giveBack i => rfl
  | wait t => rfl
  | request repo asker => exact balance_request f repo asker
  | attempt k => exact balance_attempt queueing k
  | finish k result => exact balance_finish queueing k result

theorem locked_act (queueing : f.Queueing)
    (locked : ∀ i c, f.checkout? i = some c -> f.Locked i c.tree) (a : Act) {d : Checkout}
    (here : (f.act a).checkout? i = some d) : (f.act a).Locked i d.tree := by
  have within : i < f.checkouts.length := by
    rw [← act_length f a]
    exact (List.getElem?_eq_some_iff.mp here).1
  have before : f.checkout? i = some f.checkouts[i] := List.getElem?_eq_getElem within
  by_cases borrows : a = .borrow i
  next =>
    subst borrows
    obtain rfl := Option.some.inj ((borrow_checkout before).symm.trans here)
    exact (locked i _ before).borrow
  next =>
    by_cases returns : a = .giveBack i
    next =>
      subst returns
      obtain rfl := Option.some.inj ((giveBack_checkout before).symm.trans here)
      exact (locked i _ before).giveBack
    next => exact (act_touch queueing before a borrows returns).locked (locked i _ before) here

/-- A pool of `width` permits, and trees that one sync at most works on. -/
structure Pooled (width : Nat) (f : Fleet) : Prop where
  queueing : f.Queueing
  served : f.Served
  balance : f.syncing + f.permits = width
  locked : ∀ i c, f.checkout? i = some c -> f.Locked i c.tree

namespace Pooled

theorem act (pooled : f.Pooled width) (a : Act)
    (inside : ∀ repo asker, a = .request repo asker -> repo < f.checkouts.length) :
    (f.act a).Pooled width :=
  ⟨pooled.queueing.act a, pooled.served.act pooled.queueing a inside,
    (balance_act pooled.queueing a).trans pooled.balance,
    fun _ _ here => locked_act pooled.queueing pooled.locked a here⟩

theorem resting (given : 0 < f.permits) (jobs : f.jobs = []) (queue : f.queue = [])
    (locked : ∀ i c, f.checkout? i = some c -> f.Locked i c.tree) : f.Pooled f.permits :=
  ⟨⟨by simp [queue], by simp [queue]⟩,
    ⟨by simp [jobs], by simp [queue], .inl given, by simp [jobs]⟩, by simp [syncing, jobs], locked⟩

theorem fresh (given : 0 < f.permits) (jobs : f.jobs = []) (queue : f.queue = [])
    (trees : ∀ c ∈ f.checkouts, c.tree = {}) : f.Pooled f.permits := by
  refine resting given jobs queue fun i c here => ?_
  rw [trees c (List.mem_of_getElem? here)]
  exact locked_free (idle_of_done (by simp [jobs]) i)

theorem spent (pooled : f.Pooled width) (waits : ∃ j ∈ f.jobs, j.stage = .queued) :
    f.permits = 0 := by
  obtain ⟨j, member, queued⟩ := waits
  obtain ⟨k, there⟩ := List.mem_iff_getElem?.mp member
  exact pooled.served.spent (List.ne_nil_of_mem (pooled.served.queued k j there queued))

theorem inactive {j : Job} (done : j.isDone = true) : j.stage.isActive = false := by
  cases stage : j.stage <;> simp [Job.isDone, Stage.isActive, stage] at done ⊢

theorem free (pooled : f.Pooled width) (done : ∀ j ∈ f.jobs, j.isDone = true) :
    f.permits = width := by
  have idle : f.syncing = 0 :=
    List.countP_eq_zero.mpr fun j member => by simp [inactive (done j member)]
  have balance := pooled.balance
  omega

theorem cleared (pooled : f.Pooled width) (done : ∀ j ∈ f.jobs, j.isDone = true)
    {checkouts : List Checkout} (kept : ∀ c ∈ checkouts, c ∈ f.checkouts) :
    ({ f with checkouts, jobs := [] } : Fleet).Pooled width := by
  have given : 0 < f.permits := by
    refine pooled.served.given.resolve_right ?_
    rintro ⟨k, j, there, active⟩
    rw [inactive (done j (List.mem_of_getElem? there))] at active
    cases active
  rw [← pooled.free done]
  refine resting (f := { f with checkouts, jobs := [] }) given rfl (pooled.queueing.empty done)
    fun i c here => ?_
  obtain ⟨place, there⟩ := List.mem_iff_getElem?.mp (kept c (List.mem_of_getElem? here))
  exact (pooled.locked place c there).moved (idle_of_done done place) (idle_of_done (by simp) i)

theorem alone (pooled : f.Pooled width) {l : Nat} (one : f.Works i k) (other : f.Works i l) :
    k = l := by
  obtain ⟨j, there, rfl, _⟩ := one
  have known := pooled.served.known k j there
  exact (pooled.locked j.repo _ (List.getElem?_eq_getElem known)).alone k l
    ⟨j, there, rfl, ‹_›⟩ other

end Pooled

end FleetSearch.Fleet
