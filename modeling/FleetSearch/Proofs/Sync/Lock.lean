import FleetSearch.Sync.Fleet
import Mathlib.Data.List.Basic

set_option autoImplicit false

/-!
Who has a tree. What can happen to a fleet leaves a checkout and the syncs that work on it as they
are, or a sync that found the tree free begins to work there, or one that worked comes to its end.
So at most one sync works on a checkout, and only while no probe holds the tree.
-/

namespace FleetSearch

open FleetSearch.Sync

theorem countP_set {A : Type} (p : A -> Bool) {xs : List A} {j : Nat} {v : A} (w : A)
    {before after : Bool} (there : xs[j]? = some v) (old : p v = before) (new : p w = after) :
    (xs.set j w).countP p + before.toNat = xs.countP p + after.toNat := by
  obtain ⟨inside, same⟩ := List.getElem?_eq_some_iff.mp there
  have counted : p v = true -> 0 < xs.countP p := fun holds =>
    List.countP_pos_iff.mpr ⟨v, List.mem_of_getElem? there, holds⟩
  rw [List.countP_set inside, same, old, new]
  cases before <;> cases after <;> simp_all

namespace Fleet

inductive Act where
  | borrow (i : Nat)
  | giveBack (i : Nat)
  | request (repo : Nat) (asker : Asker)
  | attempt (k : Nat)
  | finish (k : Nat) (result : Except String String)
  | wait (t : Nat)
deriving DecidableEq

def act (f : Fleet) : Act -> Fleet
  | .borrow i => f.borrow i
  | .giveBack i => f.giveBack i
  | .request repo asker => f.request repo asker
  | .attempt k => f.attempt k
  | .finish k result => f.finish k result
  | .wait t => f.wait t

def Works (f : Fleet) (i k : Nat) : Prop :=
  ∃ j, f.jobs[k]? = some j ∧ j.repo = i ∧ j.stage = .working

structure Queueing (f : Fleet) : Prop where
  once : f.queue.Nodup
  queued : ∀ k ∈ f.queue, ∃ j, f.jobs[k]? = some j ∧ j.stage = .queued

variable {f g : Fleet} {i k l : Nat}

theorem setStage_job (f : Fleet) (k : Nat) (stage : Stage) (l : Nat) :
    (f.setStage k stage).jobs[l]? =
      if k = l then (f.jobs[l]?).map fun j => { j with stage } else f.jobs[l]? := by
  simp only [setStage, List.getElem?_modify]
  split <;> cases f.jobs[l]? <;> simp_all

theorem works_setStage {j : Job} (there : f.jobs[k]? = some j) (stage : Stage) :
    (f.setStage k stage).Works i l ↔
      if k = l then j.repo = i ∧ stage = .working else f.Works i l := by
  unfold Works
  rw [setStage_job]
  split
  next here =>
    subst here
    simp [there]
  next => rfl

theorem works_setStage_idle {j : Job} (there : f.jobs[k]? = some j) {stage : Stage}
    (before : j.repo = i -> j.stage ≠ .working) (after : j.repo = i -> stage ≠ .working) :
    (f.setStage k stage).Works i l ↔ f.Works i l := by
  rw [works_setStage there]
  split
  next same =>
    subst same
    refine ⟨fun ⟨own, works⟩ => absurd works (after own), fun ⟨other, here, own, works⟩ => ?_⟩
    obtain rfl : j = other := by simpa [there] using here
    exact absurd works (before own)
  next => rfl

theorem Queueing.setStage (queueing : f.Queueing) (stage : Stage) (out : k ∉ f.queue) :
    (f.setStage k stage).Queueing := by
  refine ⟨queueing.once, fun l member => ?_⟩
  obtain ⟨j, there, waits⟩ := queueing.queued l member
  have other : k ≠ l := fun same => out (same ▸ member)
  exact ⟨j, by rw [setStage_job, if_neg other, there], waits⟩

theorem Queueing.out (queueing : f.Queueing) {j : Job} (there : f.jobs[k]? = some j)
    (started : j.stage ≠ .queued) : k ∉ f.queue := by
  intro member
  obtain ⟨other, same, waits⟩ := queueing.queued k member
  obtain rfl : j = other := by simpa [there] using same
  exact started waits

theorem Queueing.empty (queueing : f.Queueing) (done : ∀ j ∈ f.jobs, j.isDone = true) :
    f.queue = [] := by
  refine List.eq_nil_iff_forall_not_mem.mpr fun k member => ?_
  obtain ⟨j, there, waits⟩ := queueing.queued k member
  have ended := done j (List.mem_of_getElem? there)
  simp [Job.isDone, waits] at ended

theorem idle_of_done (done : ∀ j ∈ f.jobs, j.isDone = true) (i k : Nat) : ¬ f.Works i k := by
  rintro ⟨j, there, _, works⟩
  have ended := done j (List.mem_of_getElem? there)
  simp [Job.isDone, works] at ended

theorem Queueing.request (queueing : f.Queueing) (repo : Nat) (asker : Asker) :
    (f.request repo asker).Queueing := by
  have inside : ∀ k ∈ f.queue, k < f.jobs.length := fun k member => by
    obtain ⟨j, there, _⟩ := queueing.queued k member
    exact (List.getElem?_eq_some_iff.mp there).1
  have still : ∀ (job : Job), ∀ k ∈ f.queue,
      ∃ j, (f.jobs ++ [job])[k]? = some j ∧ j.stage = .queued := fun job k member => by
    rw [List.getElem?_append_left (inside k member)]
    exact queueing.queued k member
  unfold Fleet.request
  split
  next spent =>
    refine ⟨?_, fun k member => ?_⟩
    · rw [List.nodup_append]
      refine ⟨queueing.once, by simp, fun k member last one same => ?_⟩
      have early := inside k member
      simp_all
    · rcases List.mem_append.mp member with member | last
      · exact still _ k member
      · obtain rfl := List.mem_singleton.mp last
        exact ⟨_, List.getElem?_concat_length, rfl⟩
  next permits free => exact ⟨queueing.once, still _⟩

theorem Queueing.freePermit (queueing : f.Queueing) : f.freePermit.Queueing := by
  unfold Fleet.freePermit
  split
  next empty => exact ⟨by simp [empty], by simp [empty]⟩
  next k rest queue =>
    obtain ⟨out, once⟩ := List.nodup_cons.mp (queue ▸ queueing.once)
    have shorter : { f with queue := rest }.Queueing :=
      ⟨once, fun l member => queueing.queued l (by simp [queue, member])⟩
    exact shorter.setStage _ out

theorem Queueing.works_freePermit (queueing : f.Queueing) :
    f.freePermit.Works i l ↔ f.Works i l := by
  unfold Fleet.freePermit
  split
  next => rfl
  next k rest queue =>
    obtain ⟨j, there, waits⟩ := queueing.queued k (by simp [queue])
    have here : { f with queue := rest }.jobs[k]? = some j := there
    exact works_setStage_idle here (by simp [waits]) nofun

theorem freePermit_checkouts (f : Fleet) : f.freePermit.checkouts = f.checkouts := by
  unfold freePermit
  split <;> rfl

theorem works_request (f : Fleet) (repo : Nat) (asker : Asker) :
    (f.request repo asker).Works i l ↔ f.Works i l := by
  have fresh : ∀ job : Job, job.stage ≠ .working ->
      ((∃ j, (f.jobs ++ [job])[l]? = some j ∧ j.repo = i ∧ j.stage = .working) ↔
        f.Works i l) := fun job idle => by
    unfold Works
    by_cases inside : l < f.jobs.length
    next => rw [List.getElem?_append_left inside]
    next =>
      have absent : f.jobs[l]? = none := List.getElem?_eq_none (Nat.le_of_not_lt inside)
      rw [List.getElem?_append_right (Nat.le_of_not_lt inside), absent]
      refine ⟨fun ⟨j, there, _, working⟩ => ?_, nofun⟩
      obtain rfl := List.mem_singleton.mp (List.mem_of_getElem? there)
      exact absurd working idle
  unfold request
  split <;> exact fresh _ nofun

theorem Queueing.act (queueing : f.Queueing) (a : Act) : (f.act a).Queueing := by
  have change : ∀ (i : Nat) (g : Checkout -> Checkout), (f.change i g).Queueing :=
    fun _ _ => ⟨queueing.once, queueing.queued⟩
  cases a with
  | borrow i => exact change i _
  | giveBack i => exact change i _
  | request repo asker => exact queueing.request repo asker
  | wait t => exact ⟨queueing.once, queueing.queued⟩
  | attempt k =>
    rw [Fleet.act, attempt]
    split
    next repo asker w there =>
      have out := queueing.out there nofun
      split
      next =>
        split
        next => exact (change repo _).setStage _ out
        next => exact queueing.setStage _ out
        next => exact (queueing.setStage _ out).freePermit
      next => exact queueing
    next => exact queueing
  | finish k result =>
    rw [Fleet.act, finish]
    split
    next repo asker there =>
      exact ((change repo _).setStage _ (queueing.out there nofun)).freePermit
    next => exact queueing

inductive Touch (i : Nat) (c : Checkout) (f g : Fleet) : Prop
  | stay (after : g.checkout? i = some c) (works : ∀ l, g.Works i l ↔ f.Works i l)
  | claim (k : Nat) (free : c.tree.isFree = true)
      (after : g.checkout? i = some { c with tree := c.tree.claim })
      (works : ∀ l, g.Works i l ↔ f.Works i l ∨ l = k)
  | finish (k : Nat) (result : Except String String) (worked : f.Works i k)
      (after : g.checkout? i =
        some { c with tree := c.tree.yield, status := c.status.record f.now result })
      (works : ∀ l, g.Works i l ↔ f.Works i l ∧ l ≠ k)

theorem checkout_change (f : Fleet) (repo : Nat) (h : Checkout -> Checkout) :
    (f.change repo h).checkout? i =
      if repo = i then (f.checkout? i).map h else f.checkout? i := by
  simp only [change, checkout?, List.getElem?_modify]
  split <;> cases f.checkouts[i]? <;> simp_all

theorem finish_checkout {c : Checkout} (worked : f.Works i k) (here : f.checkout? i = some c)
    (result : Except String String) :
    (f.finish k result).checkout? i =
      some { c with tree := c.tree.yield, status := c.status.record f.now result } := by
  obtain ⟨⟨repo, asker, stage⟩, there, rfl, rfl⟩ := worked
  have change : ∀ g : Fleet, g.freePermit.checkout? repo = g.checkout? repo := fun g => by
    rw [checkout?, freePermit_checkouts, checkout?]
  simp only [finish, there]
  rw [change]
  exact (checkout_change f repo _).trans (by rw [if_pos rfl, here, Option.map_some])

theorem works_changeTree (f : Fleet) (repo : Nat) (h : Tree -> Tree) :
    (f.changeTree repo h).Works i l ↔ f.Works i l :=
  Iff.rfl

theorem free_of_attempt {w : Wait} {repo : Nat}
    (taken : w.attempt f.now (f.isTreeFree repo) = .taken) :
    ∃ c, f.checkout? repo = some c ∧ c.tree.isFree = true := by
  have free : f.isTreeFree repo = true := by
    by_contra held
    unfold Wait.attempt at taken
    rw [if_neg held] at taken
    split at taken <;> cases taken
  unfold isTreeFree at free
  cases here : f.checkout? repo with
  | none => simp [here] at free
  | some c => exact ⟨c, rfl, by simpa [here] using free⟩

theorem attempt_touch (queueing : f.Queueing) {c : Checkout} (here : f.checkout? i = some c)
    (k : Nat) : Touch i c f (f.attempt k) := by
  have idle : Touch i c f f := .stay here fun _ => Iff.rfl
  unfold attempt
  split
  next repo asker w there =>
    split
    next due =>
      split
      next taken =>
        have before : (f.changeTree repo Tree.claim).jobs[k]? = some _ := there
        have place := checkout_change (i := i) f repo fun c => { c with tree := c.tree.claim }
        by_cases own : repo = i
        next =>
          subst own
          obtain ⟨found, same, free⟩ := free_of_attempt taken
          obtain rfl : c = found := by simpa [here] using same
          rw [if_pos rfl, here, Option.map_some] at place
          refine .claim k free place fun l => ?_
          rw [works_setStage before]
          split
          next same => simp [same]
          next other => simp [Ne.symm other, works_changeTree]
        next =>
          rw [if_neg own, here] at place
          exact .stay place fun l =>
            works_setStage_idle before (fun same => absurd same own) fun same => absurd same own
      next again later =>
        exact .stay here fun l => works_setStage_idle there nofun nofun
      next late =>
        have waits := queueing.setStage (.done (.deferred (f.outstanding repo)))
          (queueing.out there nofun)
        refine .stay ?_ fun l => ?_
        · rw [checkout?, freePermit_checkouts]
          exact here
        · rw [waits.works_freePermit]
          exact works_setStage_idle there nofun nofun
    next => exact idle
  next => exact idle

theorem works_finish (queueing : f.Queueing) (worked : ∃ repo, f.Works repo k)
    (result : Except String String) : (f.finish k result).Works i l ↔ f.Works i l ∧ l ≠ k := by
  obtain ⟨_, ⟨repo, asker, stage⟩, there, rfl, rfl⟩ := worked
  let recorded : Fleet := f.change repo fun c =>
    { c with tree := c.tree.yield, status := c.status.record f.now result }
  have before : recorded.jobs[k]? = some _ := there
  have changed : recorded.Queueing := ⟨queueing.once, queueing.queued⟩
  have ended := changed.setStage (.done (outcomeOf result)) (queueing.out there nofun)
  simp only [finish, there]
  rw [ended.works_freePermit, works_setStage before]
  split
  next same => simp [same]
  next other => exact ⟨fun worked => ⟨worked, Ne.symm other⟩, And.left⟩

theorem finish_touch (queueing : f.Queueing) {c : Checkout} (here : f.checkout? i = some c)
    (k : Nat) (result : Except String String) : Touch i c f (f.finish k result) := by
  by_cases worked : ∃ repo, f.Works repo k
  next =>
    have works : ∀ l, (f.finish k result).Works i l ↔ f.Works i l ∧ l ≠ k :=
      fun l => works_finish queueing worked result
    obtain ⟨repo, worked⟩ := worked
    by_cases own : repo = i
    next =>
      subst own
      exact .finish k result worked (finish_checkout worked here result) works
    next =>
      obtain ⟨⟨_, asker, stage⟩, there, rfl, rfl⟩ := worked
      refine .stay ?_ fun l => ?_
      · simp only [finish, there]
        rw [checkout?, freePermit_checkouts]
        exact (checkout_change f _ _).trans (by rw [if_neg own, here])
      · rw [works]
        refine ⟨And.left, fun worked => ⟨worked, fun same => own ?_⟩⟩
        obtain ⟨j, job, mine, _⟩ := worked
        rw [same, there] at job
        cases job
        exact mine
  next =>
    have idle : f.finish k result = f := by
      unfold finish
      split
      next repo asker there => exact absurd ⟨repo, _, there, rfl, rfl⟩ worked
      next => rfl
    rw [idle]
    exact .stay here fun _ => Iff.rfl

theorem act_touch (queueing : f.Queueing) {c : Checkout} (here : f.checkout? i = some c) (a : Act)
    (other : a ≠ .borrow i) (apart : a ≠ .giveBack i) : Touch i c f (f.act a) := by
  have beside : ∀ (j : Nat) (h : Tree -> Tree), j ≠ i -> Touch i c f (f.changeTree j h) :=
      fun j h away => by
    refine .stay ?_ fun _ => Iff.rfl
    rw [changeTree, checkout_change, if_neg away, here]
  cases a with
  | borrow j => exact beside j _ fun same => other (same ▸ rfl)
  | giveBack j => exact beside j _ fun same => apart (same ▸ rfl)
  | request repo asker =>
    refine .stay ?_ fun _ => works_request f repo asker
    rw [act, request]
    split <;> exact here
  | attempt k => exact attempt_touch queueing here k
  | finish k result => exact finish_touch queueing here k result
  | wait t => exact .stay here fun _ => Iff.rfl

/-- The tree `t` of checkout `i` is written by the one sync that works there, while no probe holds it,
or lets every probe in. -/
structure Locked (f : Fleet) (i : Nat) (t : Tree) : Prop where
  writer : t.writing = true ↔ ∃ k, f.Works i k
  alone : ∀ k l, f.Works i k -> f.Works i l -> k = l
  apart : t.writing = true -> t.readers = 0
  entered : t.writing = false -> t.blocked = 0

theorem locked_free (idle : ∀ k, ¬ f.Works i k) : f.Locked i {} :=
  ⟨⟨nofun, fun ⟨k, works⟩ => absurd works (idle k)⟩, fun k _ works => absurd works (idle k), nofun,
    fun _ => rfl⟩

theorem Locked.moved {t : Tree} (locked : f.Locked i t) (idle : ∀ k, ¬ f.Works i k) {j : Nat}
    (calm : ∀ k, ¬ g.Works j k) : g.Locked j t := by
  have unwritten : t.writing ≠ true := fun writes =>
    have ⟨k, works⟩ := locked.writer.mp writes
    idle k works
  exact ⟨⟨fun writes => absurd writes unwritten, fun ⟨k, works⟩ => absurd works (calm k)⟩,
    fun k _ works => absurd works (calm k), locked.apart, locked.entered⟩

theorem Touch.locked {c d : Checkout} (touch : Touch i c f g) (locked : f.Locked i c.tree)
    (here : g.checkout? i = some d) : g.Locked i d.tree := by
  cases touch with
  | stay after works =>
    obtain rfl : c = d := Option.some.inj (after.symm.trans here)
    refine ⟨?_, fun k l => ?_, locked.apart, locked.entered⟩
    · simpa only [works] using locked.writer
    · simpa only [works] using locked.alone k l
  | claim k free after works =>
    obtain rfl := Option.some.inj (after.symm.trans here)
    have calm : c.tree.writing = false ∧ c.tree.readers = 0 := by simpa [Tree.isFree] using free
    have only : ∀ l, g.Works i l -> l = k := fun l worked => by
      refine ((works l).mp worked).resolve_left fun before => ?_
      have writing := locked.writer.mpr ⟨l, before⟩
      simp [calm.1] at writing
    exact ⟨⟨fun _ => ⟨k, (works k).mpr (.inr rfl)⟩, fun _ => rfl⟩,
      fun m l one two => (only m one).trans (only l two).symm, fun _ => calm.2, nofun⟩
  | finish k result worked after works =>
    obtain rfl := Option.some.inj (after.symm.trans here)
    have nobody : ∀ l, ¬ g.Works i l := fun l still => by
      obtain ⟨works, other⟩ := (works l).mp still
      exact other (locked.alone l k works worked)
    exact ⟨⟨nofun, fun ⟨l, still⟩ => absurd still (nobody l)⟩,
      fun l m still => absurd still (nobody l), nofun, fun _ => rfl⟩

theorem borrow_of_writing {t : Tree} (writing : t.writing = true) :
    t.borrow = { t with blocked := t.blocked + 1 } :=
  if_pos writing

theorem borrow_of_calm {t : Tree} (calm : t.writing = false) :
    t.borrow = { t with readers := t.readers + 1 } :=
  if_neg (by simp [calm])

theorem Locked.borrow {t : Tree} (locked : f.Locked i t) : (f.borrow i).Locked i t.borrow := by
  cases writing : t.writing with
  | true =>
    rw [borrow_of_writing writing]
    exact ⟨locked.writer, locked.alone, fun _ => locked.apart writing,
      fun calm => by simp [writing] at calm⟩
  | false =>
    rw [borrow_of_calm writing]
    exact ⟨locked.writer, locked.alone, fun writes => by simp [writing] at writes,
      fun _ => locked.entered writing⟩

theorem Locked.giveBack {t : Tree} (locked : f.Locked i t) : (f.giveBack i).Locked i t.giveBack where
  writer := locked.writer
  alone := locked.alone
  apart := fun writing => by rw [Tree.giveBack, locked.apart writing]
  entered := locked.entered

theorem borrow_checkout {c : Checkout} (here : f.checkout? i = some c) :
    (f.borrow i).checkout? i = some { c with tree := c.tree.borrow } := by
  rw [borrow, changeTree, checkout_change, if_pos rfl, here, Option.map_some]

theorem giveBack_checkout {c : Checkout} (here : f.checkout? i = some c) :
    (f.giveBack i).checkout? i = some { c with tree := c.tree.giveBack } := by
  rw [giveBack, changeTree, checkout_change, if_pos rfl, here, Option.map_some]

end Fleet

end FleetSearch
