import FleetSearch.Proofs.Sync.Pool
import Mathlib.Data.List.Induction

set_option autoImplicit false

namespace FleetSearch

namespace Sync

structure Ended where
  job : Nat
  time : Nat
  result : Except String String
deriving DecidableEq

def lastGood? (past : List Ended) : Option (String × Nat) :=
  past.reverse.findSome? fun e => e.result.toOption.map fun revision => (revision, e.time)

def lastFault? (past : List Ended) : Option String :=
  past.getLast?.bind fun e =>
    match e.result with
    | .ok _ => none
    | .error message => some message

def told (past : List Ended) : Status where
  revision := (lastGood? past).map Prod.fst
  syncedAt := (lastGood? past).map Prod.snd
  error := lastFault? past

theorem told_concat (past : List Ended) (e : Ended) :
    told (past ++ [e]) = (told past).record e.time e.result := by
  obtain ⟨job, time, result⟩ := e
  cases result <;> simp [told, lastGood?, lastFault?, Status.record, Except.toOption]

theorem foldl_record (past : List Ended) :
    past.foldl (fun s e => s.record e.time e.result) {} = told past := by
  induction past using List.reverseRecOn with
  | nil => rfl
  | append_singleton past e ih => rw [List.foldl_append, ih, told_concat, List.foldl_cons,
      List.foldl_nil]

end Sync

namespace Fleet

open FleetSearch.Sync

instance (f : Fleet) (i k : Nat) : Decidable (f.Works i k) :=
  decidable_of_iff ((f.jobs[k]?.any fun j => j.repo = i ∧ j.stage = .working) = true) <| by
    simp [Works, Option.any_eq_true]

def run (f : Fleet) (acts : List Act) : Fleet :=
  acts.foldl act f

def ended? (f : Fleet) (i : Nat) : Act -> Option Ended
  | .finish k result => if f.Works i k then some { job := k, time := f.now, result } else none
  | _ => none

def begun? (f : Fleet) (i : Nat) : Act -> Option Nat
  | .attempt k => if (f.attempt k).Works i k ∧ ¬ f.Works i k then some k else none
  | _ => none

def past (f : Fleet) (i : Nat) : List Act -> List Ended
  | [] => []
  | a :: rest => (f.ended? i a).toList ++ past (f.act a) i rest

def begun (f : Fleet) (i : Nat) : List Act -> List Nat
  | [] => []
  | a :: rest => (f.begun? i a).toList ++ begun (f.act a) i rest

variable {f : Fleet} {i k l : Nat}

theorem run_append (f : Fleet) (acts more : List Act) :
    f.run (acts ++ more) = (f.run acts).run more :=
  List.foldl_append

theorem Queueing.run (queueing : f.Queueing) (acts : List Act) : (f.run acts).Queueing := by
  induction acts generalizing f with
  | nil => exact queueing
  | cons a rest ih => exact ih (queueing.act a)

def status? (f : Fleet) (i : Nat) : Option Status :=
  (f.checkout? i).map Checkout.status

theorem status_of_checkouts {g : Fleet} (same : g.checkouts = f.checkouts) :
    g.status? i = f.status? i := by
  rw [status?, status?, checkout?, same, checkout?]

theorem status_changeTree (f : Fleet) (repo : Nat) (h : Tree -> Tree) :
    (f.changeTree repo h).status? i = f.status? i := by
  rw [status?, changeTree, checkout_change, status?]
  split
  next => rw [Option.map_map]; rfl
  next => rfl

theorem request_checkouts (f : Fleet) (repo : Nat) (asker : Asker) :
    (f.request repo asker).checkouts = f.checkouts := by
  unfold request
  split <;> rfl

theorem status_attempt (f : Fleet) (k : Nat) : (f.attempt k).status? i = f.status? i := by
  unfold attempt
  split
  next repo asker w there =>
    split
    next =>
      split
      next => exact status_changeTree f repo Tree.claim
      next => rfl
      next => exact status_of_checkouts (freePermit_checkouts _)
    next => rfl
  next => rfl

theorem finish_idle (idle : ∀ repo, ¬ f.Works repo k) (result : Except String String) :
    f.finish k result = f := by
  unfold finish
  split
  next repo asker there => exact absurd ⟨_, there, rfl, rfl⟩ (idle repo)
  next => rfl

theorem status_finish (idle : ¬ f.Works i k) (result : Except String String) :
    (f.finish k result).status? i = f.status? i := by
  by_cases elsewhere : ∃ repo, f.Works repo k
  next =>
    obtain ⟨_, ⟨repo, asker, stage⟩, there, rfl, rfl⟩ := elsewhere
    have apart : repo ≠ i := fun same => idle ⟨_, there, same, rfl⟩
    simp only [finish, there]
    rw [status_of_checkouts (freePermit_checkouts _)]
    show ((f.change repo _).checkout? i).map Checkout.status = _
    rw [checkout_change, if_neg apart, status?]
  next => rw [finish_idle (not_exists.mp elsewhere)]

theorem status_act (f : Fleet) (i : Nat) (a : Act) :
    (f.act a).status? i = (f.status? i).map fun s =>
      (f.ended? i a).elim s fun e => s.record e.time e.result := by
  have still : ∀ {g : Fleet}, g.status? i = f.status? i ->
      g.status? i = (f.status? i).map fun s => s := fun same => by rw [same, Option.map_id']
  cases a with
  | borrow j => exact still (status_changeTree f j Tree.borrow)
  | giveBack j => exact still (status_changeTree f j Tree.giveBack)
  | request repo asker => exact still (status_of_checkouts (request_checkouts f repo asker))
  | attempt k => exact still (status_attempt f k)
  | wait t => exact still rfl
  | finish k result =>
    by_cases works : f.Works i k
    next =>
      rw [ended?, if_pos works, status?, status?]
      cases here : f.checkout? i with
      | none =>
        have beyond := List.getElem?_eq_none_iff.mp here
        rw [← act_length f (.finish k result)] at beyond
        rw [checkout?, List.getElem?_eq_none beyond]
        rfl
      | some c =>
        rw [act, finish_checkout works here]
        rfl
    next =>
      rw [ended?, if_neg works]
      exact still (status_finish works result)

theorem status_run (f : Fleet) (i : Nat) (acts : List Act) :
    (f.run acts).status? i = (f.status? i).map fun s =>
      (f.past i acts).foldl (fun s e => s.record e.time e.result) s := by
  induction acts generalizing f with
  | nil => exact Option.map_id'.symm
  | cons a rest ih =>
    show ((f.act a).run rest).status? i = _
    rw [ih, status_act, Option.map_map, past]
    cases f.ended? i a <;> rfl

theorem works_attempt_other (queueing : f.Queueing) (other : k ≠ l) :
    (f.attempt k).Works i l ↔ f.Works i l := by
  unfold attempt
  split
  next repo asker w there =>
    split
    next =>
      split
      next =>
        have before : (f.changeTree repo Tree.claim).jobs[k]? = some _ := there
        rw [works_setStage before, if_neg other, works_changeTree]
      next => rw [works_setStage there, if_neg other]
      next =>
        have waits := queueing.setStage (.done (.deferred (f.outstanding repo)))
          (queueing.out there nofun)
        rw [waits.works_freePermit, works_setStage there, if_neg other]
    next => rfl
  next => rfl

theorem attempt_working (works : f.Works i k) : f.attempt k = f := by
  obtain ⟨⟨repo, asker, stage⟩, there, rfl, rfl⟩ := works
  simp [attempt, there]

theorem works_of_act (queueing : f.Queueing) {a : Act} (works : (f.act a).Works i l) :
    f.Works i l ∨ a = .attempt l := by
  cases a with
  | borrow j => exact .inl works
  | giveBack j => exact .inl works
  | request repo asker => exact .inl ((works_request f repo asker).mp works)
  | wait t => exact .inl works
  | attempt k =>
    by_cases own : k = l
    next => exact .inr (own ▸ rfl)
    next => exact .inl ((works_attempt_other queueing own).mp works)
  | finish k result =>
    by_cases working : ∃ repo, f.Works repo k
    next => exact .inl ((works_finish queueing working result).mp works).1
    next =>
      rw [act, finish_idle (not_exists.mp working)] at works
      exact .inl works

theorem works_act (queueing : f.Queueing) (works : f.Works i l) (a : Act)
    (goesOn : ∀ result, a ≠ .finish l result) : (f.act a).Works i l := by
  cases a with
  | borrow j => exact works
  | giveBack j => exact works
  | request repo asker => exact (works_request f repo asker).mpr works
  | wait t => exact works
  | attempt k =>
    by_cases own : k = l
    next =>
      subst own
      rwa [act, attempt_working works]
    next => exact (works_attempt_other queueing own).mpr works
  | finish k result =>
    have other : l ≠ k := fun same => goesOn result (same ▸ rfl)
    by_cases working : ∃ repo, f.Works repo k
    next => exact (works_finish queueing working result).mpr ⟨works, other⟩
    next => rwa [act, finish_idle (not_exists.mp working)]

def Busy (f : Fleet) (i : Nat) (current : Option Nat) : Prop :=
  ∀ k, f.Works i k ↔ current = some k

theorem Busy.act_still {current : Option Nat} (busy : f.Busy i current) (queueing : f.Queueing)
    {a : Act} (begins : f.begun? i a = none) (ends : f.ended? i a = none) :
    (f.act a).Busy i current := by
  -- who works afterwards has worked before, and the other way round
  refine fun k => Iff.trans ⟨fun works => ?_, fun works => ?_⟩ (busy k)
  · rcases works_of_act queueing works with before | rfl
    · exact before
    · by_contra idle
      have new : f.begun? i (.attempt k) = some k := if_pos ⟨works, idle⟩
      rw [begins] at new
      cases new
  · refine works_act queueing works a ?_
    rintro result rfl
    have told : f.ended? i (.finish k result) = some { job := k, time := f.now, result } :=
      if_pos works
    rw [ends] at told
    cases told

theorem Busy.act {current : Option Nat} (busy : f.Busy i current) (queueing : f.Queueing) (a : Act)
    (alone : ∀ k l, (f.act a).Works i k -> (f.act a).Works i l -> k = l) :
    ∃ next, (f.act a).Busy i next ∧ current.toList ++ (f.begun? i a).toList =
      (f.ended? i a).toList.map Ended.job ++ next.toList := by
  have still (begins : f.begun? i a = none) (ends : f.ended? i a = none) :
      ∃ next, (f.act a).Busy i next ∧ current.toList ++ (f.begun? i a).toList =
        (f.ended? i a).toList.map Ended.job ++ next.toList :=
    ⟨current, busy.act_still queueing begins ends, by simp [begins, ends]⟩
  cases a with
  | borrow j => exact still rfl rfl
  | giveBack j => exact still rfl rfl
  | request repo asker => exact still rfl rfl
  | wait t => exact still rfl rfl
  | attempt k =>
    by_cases begins : (f.attempt k).Works i k ∧ ¬ f.Works i k
    next =>
      obtain ⟨works, idle⟩ := begins
      -- whoever had the tree would still work beside the one that begins
      have nobody : current = none := by
        cases current with
        | none => rfl
        | some l =>
          have before := (busy l).mpr rfl
          have after := works_act queueing before (.attempt k) nofun
          exact absurd (alone l k after works ▸ before) idle
      refine ⟨some k, fun l => ⟨fun after => congrArg some (alone k l works after), ?_⟩, ?_⟩
      · rintro ⟨⟩
        exact works
      · simp [begun?, ended?, works, idle, nobody]
    next => exact still (if_neg begins) rfl
  | finish k result =>
    by_cases works : f.Works i k
    next =>
      have own := (busy k).mp works
      refine ⟨none, fun l => ⟨fun after => ?_, nofun⟩, by simp [begun?, ended?, works, own]⟩
      obtain ⟨before, other⟩ := (works_finish queueing ⟨i, works⟩ result).mp after
      have same := (busy l).mp before
      rw [own] at same
      exact absurd (Option.some.inj same).symm other
    next => exact still rfl (if_neg works)

theorem Busy.run {current : Option Nat} (busy : f.Busy i current) (queueing : f.Queueing)
    (locked : ∀ i c, f.checkout? i = some c -> f.Locked i c.tree)
    (known : i < f.checkouts.length) (acts : List Act) :
    ∃ last, (f.run acts).Busy i last ∧
      current.toList ++ f.begun i acts = (f.past i acts).map Ended.job ++ last.toList := by
  induction acts generalizing f current with
  | nil => exact ⟨current, busy, List.append_nil _⟩
  | cons a rest ih =>
    have inside : i < (f.act a).checkouts.length := by rwa [act_length]
    have still : ∀ i c, (f.act a).checkout? i = some c -> (f.act a).Locked i c.tree :=
      fun _ _ here => locked_act queueing locked a here
    have alone := (still i _ (List.getElem?_eq_getElem inside)).alone
    obtain ⟨next, after, first⟩ := busy.act queueing a alone
    obtain ⟨last, ends, others⟩ := ih after (queueing.act a) still inside
    refine ⟨last, ends, ?_⟩
    rw [begun, past, ← List.append_assoc, first, List.append_assoc, others, List.map_append,
      List.append_assoc]

-- Job `k` works, or has an outcome other than that it was deferred.
def Entered (f : Fleet) (k : Nat) : Prop :=
  ∃ j, f.jobs[k]? = some j ∧
    (j.stage = .working ∨ ∃ outcome, j.stage = .done outcome ∧ ∀ n, outcome ≠ .deferred n)

theorem Entered.not_deferred (entered : f.Entered k) (n : Nat) :
    f.outcome? k ≠ some (.deferred n) := by
  obtain ⟨⟨repo, asker, stage⟩, there, works | ⟨outcome, rfl, other⟩⟩ := entered
  · obtain rfl : stage = .working := works
    simp [outcome?, there]
  · simpa [outcome?, there] using other n

theorem entered_of_outcome {outcome : Outcome} (ended : f.outcome? k = some outcome)
    (other : ∀ n, outcome ≠ .deferred n) : f.Entered k := by
  unfold outcome? at ended
  split at ended
  next repo asker same there =>
    obtain rfl := Option.some.inj ended
    exact ⟨_, there, .inr ⟨same, rfl, other⟩⟩
  next => cases ended

theorem entered_of_finish (queueing : f.Queueing) (works : f.Works i k)
    (result : Except String String) : (f.finish k result).Entered k := by
  refine entered_of_outcome (finish_outcome queueing works result) fun n => ?_
  cases result <;> nofun

theorem job_setStage (f : Fleet) {stage : Stage} (other : l ≠ k) :
    (f.setStage l stage).jobs[k]? = f.jobs[k]? := by
  rw [setStage_job, if_neg other]

theorem job_freePermit (out : k ∉ f.queue) : f.freePermit.jobs[k]? = f.jobs[k]? := by
  unfold freePermit
  split
  next => rfl
  next first rest queue =>
    refine job_setStage { f with queue := rest } ?_
    rintro rfl
    simp [queue] at out

theorem job_attempt_other (out : k ∉ f.queue) (other : l ≠ k) :
    (f.attempt l).jobs[k]? = f.jobs[k]? := by
  unfold attempt
  split
  next =>
    split
    next =>
      split
      next => exact job_setStage _ other
      next => exact job_setStage _ other
      next => exact (job_freePermit (f := f.setStage l _) out).trans (job_setStage f other)
    next => rfl
  next => rfl

theorem job_finish_other (out : k ∉ f.queue) (other : l ≠ k) (result : Except String String) :
    (f.finish l result).jobs[k]? = f.jobs[k]? := by
  unfold finish
  split
  next repo asker there =>
    let recorded : Fleet := f.change repo fun c =>
      { c with tree := c.tree.yield, status := c.status.record f.now result }
    exact (job_freePermit (f := recorded.setStage l _) out).trans (job_setStage recorded other)
  next => rfl

theorem Entered.same {g : Fleet} (entered : f.Entered k) (same : g.jobs[k]? = f.jobs[k]?) :
    g.Entered k := by
  rwa [Entered, same]

theorem Entered.out (entered : f.Entered k) (queueing : f.Queueing) : k ∉ f.queue := by
  obtain ⟨j, there, works | ⟨outcome, done, _⟩⟩ := entered
  · exact queueing.out there (by simp [works])
  · exact queueing.out there (by simp [done])

theorem Entered.act (entered : f.Entered k) (queueing : f.Queueing) (a : Act) :
    (f.act a).Entered k := by
  have out := entered.out queueing
  cases a with
  | borrow j => exact entered
  | giveBack j => exact entered
  | wait t => exact entered
  | request repo asker =>
    obtain ⟨j, there, after⟩ := entered
    have inside := (List.getElem?_eq_some_iff.mp there).1
    refine ⟨j, ?_, after⟩
    rw [Fleet.act, request]
    split <;> exact (List.getElem?_append_left inside).trans there
  | attempt l =>
    by_cases own : l = k
    next =>
      -- a job that tries for its tree is not there yet
      subst own
      have idle : f.attempt l = f := by
        obtain ⟨⟨repo, asker, stage⟩, there, works | ⟨outcome, done, _⟩⟩ := entered
        · obtain rfl : stage = .working := works
          simp [attempt, there]
        · obtain rfl : stage = .done outcome := done
          simp [attempt, there]
      rwa [Fleet.act, idle]
    next => exact entered.same (job_attempt_other out own)
  | finish l result =>
    by_cases own : l = k
    next =>
      subst own
      by_cases works : ∃ repo, f.Works repo l
      next =>
        obtain ⟨repo, works⟩ := works
        exact entered_of_finish queueing works result
      next => rwa [Fleet.act, finish_idle (not_exists.mp works)]
    next => exact entered.same (job_finish_other out own result)

def Act.concerns (k : Nat) : Act -> Prop
  | .attempt l => l = k
  | .finish l _ => l = k
  | .request _ _ => True
  | .borrow _ | .giveBack _ | .wait _ => False

theorem act_checkouts {a : Act} (queueing : f.Queueing) (own : a.concerns k)
    (outside : ¬ (f.act a).Entered k) : (f.act a).checkouts = f.checkouts := by
  cases a with
  | borrow j => cases own
  | giveBack j => cases own
  | wait t => cases own
  | request repo asker => exact request_checkouts f repo asker
  | attempt l =>
    obtain rfl : l = k := own
    rw [act, attempt] at outside ⊢
    split at outside
    next repo asker w there =>
      split at outside
      next due =>
        rw [if_pos due]
        split at outside
        next taken =>
          have before : (f.changeTree repo Tree.claim).jobs[l]? = some _ := there
          refine absurd ⟨{ repo, asker, stage := .working }, ?_, .inl rfl⟩ outside
          rw [setStage_job, if_pos rfl, before]
          rfl
        next again later => rfl
        next late => exact freePermit_checkouts _
      next early => rw [if_neg early]
    next => rfl
  | finish l result =>
    obtain rfl : l = k := own
    by_cases works : ∃ repo, f.Works repo l
    next =>
      obtain ⟨repo, works⟩ := works
      exact absurd (entered_of_finish queueing works result) outside
    next => rw [act, finish_idle (not_exists.mp works)]

theorem Entered.run (entered : f.Entered k) (queueing : f.Queueing) (acts : List Act) :
    (f.run acts).Entered k := by
  induction acts generalizing f with
  | nil => exact entered
  | cons a rest ih => exact ih (entered.act queueing a) (queueing.act a)

theorem deferred_checkouts (queueing : f.Queueing) {before after : List Act} {a : Act} {n : Nat}
    (deferred : (f.run (before ++ a :: after)).outcome? k = some (.deferred n))
    (own : a.concerns k) : (f.run (before ++ [a])).checkouts = (f.run before).checkouts := by
  have last : f.run (before ++ [a]) = (f.run before).act a := run_append f before [a]
  have rest : f.run (before ++ a :: after) = ((f.run before).act a).run after :=
    run_append f before (a :: after)
  rw [rest] at deferred
  rw [last]
  -- a job that gets its tree keeps it or comes to another end
  refine act_checkouts (queueing.run before) own fun entered => ?_
  exact (entered.run ((queueing.run before).act a) after).not_deferred n deferred

/-- The status of a checkout is told by the syncs that had its tree, in the order in which they got
it: the last that succeeded, and how the last one failed, if it did. A sync that is deferred has
changed nothing by any of its acts, neither in a status nor in what holds a tree. -/
theorem status_told {checkouts : List Checkout} {maxSyncs : Nat}
    (started : Fleet.start checkouts maxSyncs = .ok f)
    (new : ∀ c ∈ checkouts, c.tree = {} ∧ c.status = {}) (known : i < checkouts.length)
    (acts : List Act) :
    (∃ c, (f.run acts).checkout? i = some c ∧ c.status = told (f.past i acts) ∧
      c.revision = ((lastGood? (f.past i acts)).map Prod.fst).getD "") ∧
    (∃ current, (∀ k, (f.run acts).Works i k ↔ current = some k) ∧
      f.begun i acts = (f.past i acts).map Ended.job ++ current.toList) ∧
    ∀ k n, (f.run acts).outcome? k = some (.deferred n) -> ∀ before a after,
      acts = before ++ a :: after -> a.concerns k ->
        (f.run (before ++ [a])).checkouts = (f.run before).checkouts := by
  have bare : f.checkouts = checkouts ∧ f.jobs = [] ∧ f.queue = [] := by
    unfold Fleet.start at started
    cases permits : Search.Permits.start maxSyncs with
    | error fault => simp [permits, bind, Except.bind] at started
    | ok free =>
      simp only [permits, bind, Except.bind, pure, Except.pure, Except.ok.injEq] at started
      subst started
      exact ⟨rfl, rfl, rfl⟩
  obtain ⟨rfl, jobs, queue⟩ := bare
  have queueing : f.Queueing := ⟨by simp [queue], by simp [queue]⟩
  have idle : ∀ i k, ¬ f.Works i k := idle_of_done (by simp [jobs])
  have here : f.checkout? i = some f.checkouts[i] := List.getElem?_eq_getElem known
  have fresh := (new _ (List.getElem_mem known)).2
  have locked : ∀ i c, f.checkout? i = some c -> f.Locked i c.tree := fun j c there => by
    rw [(new c (List.mem_of_getElem? there)).1]
    exact locked_free (idle j)
  refine ⟨?_, ?_, fun k n deferred before a after cut own => ?_⟩
  · have reported := status_run f i acts
    rw [status?, status?, here, Option.map_some, fresh, Option.map_some, foldl_record] at reported
    obtain ⟨c, there, same⟩ := Option.map_eq_some_iff.mp reported
    exact ⟨c, there, same, by rw [Checkout.revision, same, told]⟩
  · have busy : f.Busy i none := fun k => ⟨fun works => absurd works (idle i k), nofun⟩
    exact busy.run queueing locked known acts
  · subst cut
    exact deferred_checkouts queueing deferred own

def oneIdle : Fleet where
  checkouts := [{ repo := { name := "a" }, dir := "/a" }]
  permits := 2

-- A sync succeeds while a probe waits for it. The next one waits for the probe too long, and the
-- last one fails.
def mixedSyncs : List Act :=
  [.request 0 .update, .attempt 0, .borrow 0, .wait 7, .finish 0 (.ok "r1"), .request 0 .update,
    .attempt 1, .wait 30007, .attempt 1, .giveBack 0, .request 0 .caller, .attempt 2,
    .finish 2 (.error "broken")]

theorem mixedSyncs_told :
    (∃ c, (oneIdle.run mixedSyncs).checkout? 0 = some c ∧
      c.status = { revision := some "r1", syncedAt := some 7, error := some "broken" } ∧
      c.revision = "r1") ∧
    oneIdle.begun 0 mixedSyncs = [0, 2] ∧
    (oneIdle.run mixedSyncs).outcome? 1 = some (.deferred 1) ∧
    (oneIdle.run (mixedSyncs.take 9)).checkouts = (oneIdle.run (mixedSyncs.take 8)).checkouts := by
  have started : Fleet.start oneIdle.checkouts 2 = .ok oneIdle := rfl
  have deferred : (oneIdle.run mixedSyncs).outcome? 1 = some (.deferred 1) := by decide +kernel
  obtain ⟨⟨c, here, status, revision⟩, _, left⟩ := status_told (i := 0) started (by decide)
    (by decide) mixedSyncs
  exact ⟨⟨c, here, status.trans (by decide +kernel), revision.trans (by decide +kernel)⟩,
    by decide +kernel, deferred,
    left 1 1 deferred (mixedSyncs.take 8) (.attempt 1) (mixedSyncs.drop 9) rfl rfl⟩

end Fleet

end FleetSearch
