import FleetSearch.Proofs.Sync.Lock

set_option autoImplicit false

namespace FleetSearch

open FleetSearch.Sync

def Sync.Stage.isActive : Stage -> Bool
  | .waiting _ => true
  | .working => true
  | _ => false

namespace Fleet

structure Served (f : Fleet) : Prop where
  queued : ∀ (k : Nat) (j : Job), f.jobs[k]? = some j -> j.stage = .queued -> k ∈ f.queue
  spent : f.queue ≠ [] -> f.permits = 0
  given : 0 < f.permits ∨ ∃ (k : Nat) (j : Job), f.jobs[k]? = some j ∧ j.stage.isActive = true
  known : ∀ (k : Nat) (j : Job), f.jobs[k]? = some j -> j.repo < f.checkouts.length

variable {f : Fleet} {k : Nat}

theorem setStage_active {j : Job} (there : f.jobs[k]? = some j) {stage : Stage}
    (active : stage.isActive = true) :
    ∃ (l : Nat) (other : Job), (f.setStage k stage).jobs[l]? = some other ∧
      other.stage.isActive = true :=
  ⟨k, { j with stage }, by simp [setStage_job, there], active⟩

theorem known_setStage
    (known : ∀ (l : Nat) (j : Job), f.jobs[l]? = some j -> j.repo < f.checkouts.length)
    (stage : Stage) (l : Nat) (j : Job) (there : (f.setStage k stage).jobs[l]? = some j) :
    j.repo < f.checkouts.length := by
  rw [setStage_job] at there
  split at there
  next =>
    obtain ⟨old, before, rfl⟩ := Option.map_eq_some_iff.mp there
    exact known l old before
  next => exact known l j there

theorem queued_setStage {queue : List Nat} {stage : Stage} (started : stage ≠ .queued)
    (queued : ∀ (l : Nat) (j : Job), l ≠ k -> f.jobs[l]? = some j -> j.stage = .queued ->
      l ∈ queue) (l : Nat)
    (j : Job) (there : (f.setStage k stage).jobs[l]? = some j) (waits : j.stage = .queued) :
    l ∈ queue := by
  rw [setStage_job] at there
  split at there
  next =>
    obtain ⟨old, _, rfl⟩ := Option.map_eq_some_iff.mp there
    exact absurd waits started
  next other => exact queued l j (Ne.symm other) there waits

namespace Served

theorem setStage (served : f.Served) {j : Job} (there : f.jobs[k]? = some j) {stage : Stage}
    (active : stage.isActive = true) : (f.setStage k stage).Served where
  queued := queued_setStage (fun same => by simp [same, Stage.isActive] at active)
    fun l other _ => served.queued l other
  spent := served.spent
  given := .inr (setStage_active there active)
  known := known_setStage served.known stage

theorem freePermit (queueing : f.Queueing)
    (queued : ∀ (l : Nat) (j : Job), f.jobs[l]? = some j -> j.stage = .queued -> l ∈ f.queue)
    (spent : f.queue ≠ [] -> f.permits = 0)
    (known : ∀ (l : Nat) (j : Job), f.jobs[l]? = some j -> j.repo < f.checkouts.length) :
    f.freePermit.Served := by
  unfold Fleet.freePermit
  split
  next empty =>
    exact ⟨fun l j there waits => queued l j there waits, fun some => absurd empty some,
      .inl (Nat.succ_pos _), known⟩
  next first rest queue =>
    obtain ⟨j, there, _⟩ := queueing.queued first (by simp [queue])
    have active := setStage_active (f := { f with queue := rest }) there
      (show (Stage.waiting (.start f.now)).isActive = true from rfl)
    refine ⟨queued_setStage nofun fun l j other there waits => ?_, fun _ => spent (by simp [queue]),
      .inr active, known_setStage (f := { f with queue := rest }) known _⟩
    have member : l ∈ first :: rest := queue ▸ queued l j there waits
    exact (List.mem_cons.mp member).resolve_left other

theorem ended (served : f.Served) (queueing : f.Queueing) {j : Job}
    (there : f.jobs[k]? = some j) (started : j.stage ≠ .queued) (outcome : Outcome) :
    (f.setStage k (.done outcome)).freePermit.Served :=
  freePermit (queueing.setStage _ (queueing.out there started))
    (queued_setStage nofun fun l other _ => served.queued l other) served.spent
    (known_setStage served.known _)

theorem change (served : f.Served) (i : Nat) (g : Checkout -> Checkout) : (f.change i g).Served :=
  ⟨served.queued, served.spent, served.given, by simpa [Fleet.change] using served.known⟩

theorem append (served : f.Served) {job : Job} (active : job.stage.isActive = true)
    (inside : job.repo < f.checkouts.length) (permits : Nat)
    (spent : f.queue ≠ [] -> permits = 0) :
    { f with jobs := f.jobs ++ [job], permits }.Served := by
  have cases : ∀ (l : Nat) (j : Job), (f.jobs ++ [job])[l]? = some j ->
      f.jobs[l]? = some j ∨ j = job := by
    intro l j there
    rcases Nat.lt_or_ge l f.jobs.length with before | behind
    · rw [List.getElem?_append_left before] at there
      exact .inl there
    · rw [List.getElem?_append_right behind] at there
      exact .inr (List.mem_singleton.mp (List.mem_of_getElem? there))
  refine ⟨fun l j there waits => ?_, spent, .inr ⟨f.jobs.length, job, by simp, active⟩, ?_⟩
  · rcases cases l j there with old | rfl
    · exact served.queued l j old waits
    · simp [waits, Stage.isActive] at active
  · intro l j there
    rcases cases l j there with old | rfl
    · exact served.known l j old
    · exact inside

theorem request (served : f.Served) (repo : Nat) (asker : Asker)
    (inside : repo < f.checkouts.length) : (f.request repo asker).Served := by
  unfold Fleet.request
  split
  next none =>
    have given : ∃ (k : Nat) (j : Job), f.jobs[k]? = some j ∧ j.stage.isActive = true :=
      served.given.resolve_left (by omega)
    obtain ⟨k, j, there, active⟩ := given
    obtain ⟨place, _⟩ := List.getElem?_eq_some_iff.mp there
    refine ⟨fun l other stands waits => ?_, fun _ => none, .inr ⟨k, j, ?_, active⟩,
      fun l other stands => ?_⟩
    · rw [List.mem_append]
      rcases Nat.lt_trichotomy l f.jobs.length with before | rfl | behind
      · rw [List.getElem?_append_left before] at stands
        exact .inl (served.queued l other stands waits)
      · exact .inr (List.mem_singleton.mpr rfl)
      · rw [List.getElem?_eq_none (by simp; omega)] at stands
        cases stands
    · rw [List.getElem?_append_left place, there]
    · rcases List.mem_append.mp (List.mem_of_getElem? stands) with old | new
      · obtain ⟨m, here, same⟩ := List.mem_iff_getElem.mp old
        exact served.known m other (by rw [List.getElem?_eq_getElem here, same])
      · rw [List.mem_singleton.mp new]
        exact inside
  next permits more =>
    exact served.append rfl inside permits fun some => by simp [served.spent some] at more

end Served

theorem act_length (f : Fleet) (a : Act) : (f.act a).checkouts.length = f.checkouts.length := by
  have free : ∀ g : Fleet, g.freePermit.checkouts.length = g.checkouts.length :=
    fun g => by rw [freePermit_checkouts]
  cases a with
  | borrow i => exact List.length_modify ..
  | giveBack i => exact List.length_modify ..
  | request repo asker =>
    rw [act, request]
    split <;> rfl
  | attempt k =>
    rw [act, attempt]
    split
    next =>
      split
      next =>
        split
        next => exact List.length_modify ..
        next => rfl
        next => rw [free]; rfl
      next => rfl
    next => rfl
  | finish k result =>
    rw [act, finish]
    split
    next =>
      rw [free]
      exact List.length_modify ..
    next => rfl
  | wait t => rfl

theorem Served.act (served : f.Served) (queueing : f.Queueing) (a : Act)
    (inside : ∀ repo asker, a = .request repo asker -> repo < f.checkouts.length) :
    (f.act a).Served := by
  cases a with
  | borrow i => exact served.change i _
  | giveBack i => exact served.change i _
  | request repo asker => exact served.request repo asker (inside repo asker rfl)
  | wait t => exact ⟨served.queued, served.spent, served.given, served.known⟩
  | attempt k =>
    rw [Fleet.act, attempt]
    split
    next repo asker w there =>
      split
      next =>
        split
        next => exact (served.change repo _).setStage there rfl
        next => exact served.setStage there rfl
        next => exact served.ended queueing there (fun queued => by cases queued) _
      next => exact served
    next => exact served
  | finish k result =>
    rw [Fleet.act, finish]
    split
    next repo asker there =>
      exact (served.change repo _).ended ⟨queueing.once, queueing.queued⟩ there
        (fun queued => by cases queued) _
    next => exact served

theorem outcome_ended {j : Job} (there : f.jobs[k]? = some j) (out : k ∉ f.queue)
    (outcome : Outcome) : (f.setStage k (.done outcome)).freePermit.outcome? k = some outcome := by
  have ended : (f.setStage k (.done outcome)).jobs[k]? = some { j with stage := .done outcome } := by
    rw [setStage_job, if_pos rfl, there, Option.map_some]
  have done : (f.setStage k (.done outcome)).freePermit.jobs[k]? =
      some { j with stage := .done outcome } := by
    unfold Fleet.freePermit
    split
    next => exact ended
    next first rest queue =>
      have other : first ≠ k := by
        rintro rfl
        have member : first ∈ f.queue := queue ▸ List.mem_cons_self
        exact out member
      rw [setStage_job, if_neg other]
      exact ended
  rw [Fleet.outcome?, done]

theorem finish_outcome (queueing : f.Queueing) {i : Nat} (works : f.Works i k)
    (result : Except String String) : (f.finish k result).outcome? k = some (outcomeOf result) := by
  obtain ⟨⟨repo, asker, stage⟩, there, rfl, rfl⟩ := works
  have out := queueing.out there nofun
  simp only [finish, there]
  exact outcome_ended (f := f.change repo _) there out _

theorem attempt_late (queueing : f.Queueing) {job : Job} {w : Wait} (there : f.jobs[k]? = some job)
    (waits : job.stage = .waiting w) (held : f.isTreeFree job.repo = false)
    (due : w.due ≤ f.now) (late : w.deadline ≤ f.now) :
    (f.attempt k).outcome? k = some (.deferred (f.outstanding job.repo)) := by
  obtain ⟨repo, asker, stage⟩ := job
  obtain rfl : stage = .waiting w := waits
  have out := queueing.out there nofun
  have ending : w.attempt f.now (f.isTreeFree repo) = .deferred := by
    rw [Wait.attempt, if_neg (by simpa using held), if_pos late]
  simp only [attempt, there, Wait.isDue, decide_eq_true due, if_true, ending]
  exact outcome_ended there out _

theorem Served.behind (served : f.Served) {j : Job} (there : f.jobs[k]? = some j)
    (queued : j.stage = .queued) : ∃ (l : Nat) (other : Job), f.jobs[l]? = some other ∧
      other.stage.isActive = true := by
  have member := served.queued k j there queued
  have none := served.spent (List.ne_nil_of_mem member)
  exact served.given.resolve_left (by omega)

end Fleet

end FleetSearch
