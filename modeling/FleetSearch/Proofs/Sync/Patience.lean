import FleetSearch.Proofs.Sync.Reports

set_option autoImplicit false

namespace FleetSearch

namespace Sync

structure Try where
  time : Nat
  free : Bool
  outstanding : Nat
deriving DecidableEq

def Wait.after (w : Wait) (t : Try) : Stage :=
  match w.attempt t.time t.free with
  | .taken => .working
  | .again w => .waiting w
  | .deferred => .done (.deferred t.outstanding)

theorem length_spaced {gap first last : Nat} {times : List Nat}
    (spaced : times.Pairwise fun s t => s + gap ≤ t) (inside : ∀ t ∈ times, first ≤ t ∧ t < last)
    (room : first < last + gap) : times.length * gap + first < last + gap := by
  induction times generalizing first with
  | nil => simpa using room
  | cons t rest shorter =>
    obtain ⟨apart, spaced⟩ := List.pairwise_cons.mp spaced
    obtain ⟨early, before⟩ := inside t List.mem_cons_self
    have others := shorter spaced
      (fun s member => ⟨apart s member, (inside s (List.mem_cons_of_mem t member)).2⟩) (by omega)
    have longer : (t :: rest).length * gap = rest.length * gap + gap := by
      rw [List.length_cons, Nat.succ_mul]
    omega

structure Vain (start : Nat) (tries : List Try) : Prop where
  spaced : tries.Pairwise fun s t => s.time + retryMillis ≤ t.time
  held : ∀ t ∈ tries, t.free = false
  within : ∀ t ∈ tries, start ≤ t.time ∧ t.time < start + longestWaitMillis

theorem Vain.length {start : Nat} {tries : List Try} (vain : Vain start tries) :
    tries.length ≤ longestWaitMillis / retryMillis := by
  have within : ∀ t ∈ tries.map Try.time, start ≤ t ∧ t < start + longestWaitMillis := by
    simpa using vain.within
  have spaced := length_spaced (List.pairwise_map.mpr vain.spaced) within
    (by simp only [longestWaitMillis, retryMillis]; omega)
  simp only [List.length_map, longestWaitMillis, retryMillis] at spaced ⊢
  omega

inductive Sought (start : Nat) : List Try -> Stage -> Prop
  | waits {tries : List Try} {w : Wait} (vain : Vain start tries)
      (deadline : w.deadline = start + longestWaitMillis) (begun : start ≤ w.due)
      (next : ∀ t ∈ tries, t.time + retryMillis ≤ w.due) : Sought start tries (.waiting w)
  | takes {tries : List Try} {t : Try} {s : Stage} (vain : Vain start tries)
      (next : ∀ e ∈ tries, e.time + retryMillis ≤ t.time) (free : t.free = true)
      (has : s = .working ∨ ∃ outcome, s = .done outcome ∧ ∀ n, outcome ≠ .deferred n) :
      Sought start (tries ++ [t]) s
  | defers {tries : List Try} {t : Try} (vain : Vain start tries)
      (next : ∀ e ∈ tries, e.time + retryMillis ≤ t.time) (held : t.free = false)
      (late : start + longestWaitMillis ≤ t.time) :
      Sought start (tries ++ [t]) (.done (.deferred t.outstanding))

theorem Sought.started {start : Nat} {tries : List Try} {s : Stage}
    (sought : Sought start tries s) : s ≠ .queued := by
  rintro rfl
  cases sought with
  | takes _ _ _ has => simp at has

namespace Sought

variable {start : Nat} {tries : List Try} {s : Stage}

theorem length (sought : Sought start tries s) :
    tries.length ≤ longestWaitMillis / retryMillis + 1 := by
  cases sought with
  | waits vain => exact Nat.le_succ_of_le vain.length
  | takes vain => simpa using vain.length
  | defers vain => simpa using vain.length

theorem spaced (sought : Sought start tries s) :
    tries.Pairwise fun s t => s.time + retryMillis ≤ t.time := by
  have longer : ∀ {tries : List Try} {t : Try}, Vain start tries ->
      (∀ e ∈ tries, e.time + retryMillis ≤ t.time) ->
      (tries ++ [t]).Pairwise fun s t => s.time + retryMillis ≤ t.time := fun vain next =>
    List.pairwise_append.mpr ⟨vain.spaced, List.pairwise_singleton _ _, by simpa using next⟩
  cases sought with
  | waits vain => exact vain.spaced
  | takes vain next => exact longer vain next
  | defers vain next => exact longer vain next

theorem earlier (sought : Sought start tries s) :
    ∀ t ∈ tries.dropLast, t.free = false ∧ t.time < start + longestWaitMillis := by
  have early : ∀ {tries : List Try}, Vain start tries ->
      ∀ t ∈ tries, t.free = false ∧ t.time < start + longestWaitMillis :=
    fun vain t member => ⟨vain.held t member, (vain.within t member).2⟩
  cases sought with
  | waits vain => exact fun t member => early vain t ((List.dropLast_sublist _).subset member)
  | takes vain =>
    rw [List.dropLast_concat]
    exact early vain
  | defers vain =>
    rw [List.dropLast_concat]
    exact early vain

theorem stands (sought : Sought start tries s) :
    ((∃ w, s = .waiting w) ∧ tries.length ≤ longestWaitMillis / retryMillis) ∨
      (s = .working ∨ ∃ outcome, s = .done outcome ∧ ∀ n, outcome ≠ .deferred n) ∨
      ∃ n, s = .done (.deferred n) := by
  cases sought with
  | waits vain => exact .inl ⟨⟨_, rfl⟩, vain.length⟩
  | takes _ _ _ has => exact .inr (.inl has)
  | defers => exact .inr (.inr ⟨_, rfl⟩)

theorem entered_iff (sought : Sought start tries s) :
    (s = .working ∨ ∃ outcome, s = .done outcome ∧ ∀ n, outcome ≠ .deferred n) ↔
      ∃ t ∈ tries, t.free = true := by
  cases sought with
  | waits vain => simpa using vain.held
  | takes _ _ free has => exact ⟨fun _ => ⟨_, by simp, free⟩, fun _ => has⟩
  | defers vain _ held => simpa [or_imp, forall_and, held] using vain.held

theorem deferred_iff (sought : Sought start tries s) (n : Nat) :
    s = .done (.deferred n) ↔ ∃ t, tries.getLast? = some t ∧ t.free = false ∧
      start + longestWaitMillis ≤ t.time ∧ t.outstanding = n := by
  cases sought with
  | waits vain =>
    refine ⟨nofun, fun ⟨t, last, _, late, _⟩ => ?_⟩
    exact absurd (vain.within t (List.mem_of_getLast? last)).2 (Nat.not_lt_of_le late)
  | takes _ _ free has =>
    refine ⟨?_, fun ⟨t, last, held, _⟩ => ?_⟩
    · rintro rfl
      simp at has
    · rw [List.getLast?_concat, Option.some.injEq] at last
      simp [← last, free] at held
  | defers _ _ held late => simp [held, late]

end Sought

end Sync

namespace Fleet

open FleetSearch.Sync

def trying? (f : Fleet) (k : Nat) : Option Try :=
  match f.jobs[k]? with
  | some { repo, stage := .waiting w, .. } =>
    if w.isDue f.now then
      some { time := f.now, free := f.isTreeFree repo, outstanding := f.outstanding repo }
    else none
  | _ => none

def tried? (f : Fleet) (k : Nat) : Act -> Option Try
  | .attempt l => if l = k then f.trying? k else none
  | _ => none

def tries (f : Fleet) (k : Nat) : List Act -> List Try
  | [] => []
  | a :: rest => (f.tried? k a).toList ++ tries (f.act a) k rest

def wake (f : Fleet) (k : Nat) : List Act :=
  match f.jobs[k]? with
  | some { stage := .waiting w, .. } => [.wait w.due, .attempt k]
  | _ => []

-- The sync goes on for so many rounds. In each others act first, while it sleeps.
def rounds (f : Fleet) (k : Nat) : List (List Act) -> List Act
  | [] => []
  | others :: rest =>
    let acts := others ++ (f.run others).wake k
    acts ++ rounds (f.run acts) k rest

variable {f : Fleet} {i k l : Nat}

theorem tries_append (f : Fleet) (k : Nat) (acts more : List Act) :
    f.tries k (acts ++ more) = f.tries k acts ++ (f.run acts).tries k more := by
  induction acts generalizing f with
  | nil => rfl
  | cons a rest next =>
    show _ ++ (f.act a).tries k (rest ++ more) = (_ ++ (f.act a).tries k rest) ++ _
    rw [next, List.append_assoc]
    rfl

theorem job_attempt (out : k ∉ f.queue) {repo : Nat} {asker : Asker} {w : Wait}
    (there : f.jobs[k]? = some { repo, asker, stage := .waiting w }) (due : w.due ≤ f.now) :
    let t : Try :=
      { time := f.now, free := f.isTreeFree repo, outstanding := f.outstanding repo }
    (f.attempt k).jobs[k]? = some { repo, asker, stage := w.after t } := by
  have staged : ∀ (g : Fleet) (stage : Stage), g.jobs = f.jobs ->
      (g.setStage k stage).jobs[k]? = some { repo, asker, stage } := fun g stage same => by
    rw [setStage_job, if_pos rfl, same, there]
    rfl
  simp only [attempt, there, Wait.isDue, decide_eq_true due, if_true, Wait.after]
  rcases w.attempt f.now (f.isTreeFree repo) with _ | w | _
  · exact staged _ _ rfl
  · exact staged f _ rfl
  · exact (job_freePermit (f := f.setStage k _) out).trans (staged f _ rfl)

inductive Goes (f : Fleet) (k : Nat) (a : Act) : Stage -> Stage -> Prop
  | stay {s : Stage} (none : f.tried? k a = none) : Goes f k a s s
  | tries {w : Wait} {t : Try} (tried : f.tried? k a = some t) (due : w.due ≤ t.time) :
      Goes f k a (.waiting w) (w.after t)
  | ends (none : f.tried? k a = none) (result : Except String String) :
      Goes f k a .working (.done (outcomeOf result))

theorem job_act (queueing : f.Queueing) {j : Job} (there : f.jobs[k]? = some j)
    (started : j.stage ≠ .queued) (a : Act) :
    ∃ s, (f.act a).jobs[k]? = some { j with stage := s } ∧ Goes f k a j.stage s := by
  have out := queueing.out there started
  have still : (f.act a).jobs[k]? = f.jobs[k]? -> f.tried? k a = none ->
      ∃ s, (f.act a).jobs[k]? = some { j with stage := s } ∧ Goes f k a j.stage s :=
    fun same none => ⟨j.stage, same.trans there, .stay none⟩
  cases a with
  | borrow i => exact still rfl rfl
  | giveBack i => exact still rfl rfl
  | wait t => exact still rfl rfl
  | request repo asker =>
    refine still ?_ rfl
    have inside := (List.getElem?_eq_some_iff.mp there).1
    rw [act, request]
    split <;> exact List.getElem?_append_left inside
  | attempt l =>
    by_cases own : l = k
    next =>
      subst own
      obtain ⟨repo, asker, stage⟩ := j
      have tried : f.tried? l (.attempt l) = f.trying? l := if_pos rfl
      cases stage with
      | waiting w =>
        by_cases due : w.due ≤ f.now
        next =>
          refine ⟨_, job_attempt out there due, .tries ?_ due⟩
          rw [tried, trying?, there]
          exact if_pos (decide_eq_true due)
        next =>
          have early : w.isDue f.now = false := decide_eq_false due
          refine still ?_ ?_
          · simp [act, attempt, there, early]
          · simp [tried, trying?, there, early]
      | queued => exact absurd rfl started
      | working => exact still (by simp [act, attempt, there]) (by simp [tried, trying?, there])
      | done outcome =>
        exact still (by simp [act, attempt, there]) (by simp [tried, trying?, there])
    next => exact still (job_attempt_other out own) (if_neg own)
  | finish l result =>
    by_cases own : l = k
    next =>
      subst own
      by_cases works : j.stage = .working
      next =>
        obtain ⟨repo, asker, stage⟩ := j
        obtain rfl : stage = .working := works
        refine ⟨.done (outcomeOf result), ?_, .ends rfl result⟩
        let recorded : Fleet := f.change repo fun c =>
          { c with tree := c.tree.yield, status := c.status.record f.now result }
        simp only [act, finish, there]
        refine (job_freePermit (f := recorded.setStage l _) out).trans ?_
        rw [setStage_job, if_pos rfl]
        exact (congrArg _ there).trans rfl
      next =>
        refine still ?_ rfl
        rw [act, finish_idle]
        rintro repo ⟨other, same, -, working⟩
        obtain rfl := Option.some.inj (there.symm.trans same)
        exact works working
    next => exact still (job_finish_other out own result) rfl

theorem Goes.sought {a : Act} {s t : Stage} (goes : Goes f k a s t) {start : Nat}
    {tries : List Try} (sought : Sought start tries s) :
    Sought start (tries ++ (f.tried? k a).toList) t := by
  cases goes with
  | stay none => simpa [none] using sought
  | ends none result =>
    cases sought with
    | takes vain next free has =>
      rw [none, Option.toList_none, List.append_nil]
      refine .takes vain next free (.inr ⟨_, rfl, fun n => ?_⟩)
      cases result <;> nofun
  | @tries w t tried due =>
    obtain ⟨vain, deadline, begun, next⟩ | ⟨_, _, _, has⟩ := sought
    case takes => simp at has
    have apart : ∀ e ∈ tries, e.time + retryMillis ≤ t.time := fun e member =>
      Nat.le_trans (next e member) due
    rw [tried, Option.toList_some, Wait.after, Wait.attempt]
    cases free : t.free with
    | true => exact .takes vain apart free (.inl rfl)
    | false =>
      rw [if_neg Bool.false_ne_true]
      by_cases late : w.deadline ≤ t.time
      next =>
        rw [if_pos late]
        exact .defers vain apart free (deadline ▸ late)
      next =>
        have within : start ≤ t.time ∧ t.time < start + longestWaitMillis :=
          ⟨Nat.le_trans begun due, deadline ▸ Nat.lt_of_not_le late⟩
        rw [if_neg late]
        refine .waits ⟨?_, ?_, ?_⟩ deadline (Nat.le_add_right_of_le within.1) ?_
        · refine List.pairwise_append.mpr ⟨vain.spaced, List.pairwise_singleton _ _, ?_⟩
          simpa using apart
        · simpa [or_imp, forall_and, free] using vain.held
        · simpa [or_imp, forall_and, within] using vain.within
        · simp only [List.mem_append, List.mem_singleton]
          rintro e (before | rfl)
          · exact Nat.le_add_right_of_le (apart e before)
          · exact Nat.le_refl _

theorem sought_run (queueing : f.Queueing) {j : Job} (there : f.jobs[k]? = some j) {start : Nat}
    {past : List Try} (sought : Sought start past j.stage) (acts : List Act) :
    ∃ s, (f.run acts).jobs[k]? = some { j with stage := s } ∧
      Sought start (past ++ f.tries k acts) s := by
  induction acts generalizing f past j with
  | nil => exact ⟨j.stage, there, by simpa [tries] using sought⟩
  | cons a rest next =>
    obtain ⟨s, there, goes⟩ := job_act queueing there sought.started a
    obtain ⟨last, ends, sought⟩ := next (queueing.act a) there (goes.sought sought)
    exact ⟨last, ends, by rwa [tries, ← List.append_assoc]⟩

theorem decided_run (queueing : f.Queueing) {j : Job} (there : f.jobs[k]? = some j)
    (started : j.stage ≠ .queued) (decided : ∀ w, j.stage ≠ .waiting w) (acts : List Act) :
    ∃ s, (f.run acts).jobs[k]? = some { j with stage := s } ∧ ∀ w, s ≠ .waiting w := by
  induction acts generalizing f j with
  | nil => exact ⟨j.stage, there, decided⟩
  | cons a rest next =>
    obtain ⟨s, there, goes⟩ := job_act queueing there started a
    have after : s ≠ .queued ∧ ∀ w, s ≠ .waiting w := by
      generalize j.stage = before at started decided goes
      cases goes with
      | stay => exact ⟨started, decided⟩
      | tries => exact absurd rfl (decided _)
      | ends => exact ⟨nofun, nofun⟩
    exact next (queueing.act a) (j := { j with stage := s }) there after.1 after.2

theorem tries_wake {repo : Nat} {asker : Asker} {w : Wait}
    (there : f.jobs[k]? = some { repo, asker, stage := .waiting w }) :
    (f.tries k (f.wake k)).length = 1 := by
  have wakes : f.wake k = [.wait w.due, .attempt k] := by rw [wake, there]
  have due : w.isDue (f.wait w.due).now = true := decide_eq_true (Nat.le_max_right f.now w.due)
  have here : (f.wait w.due).jobs[k]? = some { repo, asker, stage := .waiting w } := there
  rw [wakes]
  simp [tries, tried?, act, trying?, here, due]

theorem rounds_tries (queueing : f.Queueing) {j : Job} (there : f.jobs[k]? = some j) {start : Nat}
    {past : List Try} (sought : Sought start past j.stage) (others : List (List Act))
    (waits : ∃ w, (f.run (f.rounds k others)).jobs[k]? = some { j with stage := .waiting w }) :
    others.length ≤ (f.tries k (f.rounds k others)).length := by
  induction others generalizing f past j with
  | nil => exact Nat.zero_le _
  | cons acts rest longer =>
    let woken := acts ++ (f.run acts).wake k
    have wholly : f.run (f.rounds k (acts :: rest)) =
        (f.run woken).run ((f.run woken).rounds k rest) := run_append f woken _
    obtain ⟨s, asleep, still⟩ := sought_run queueing there sought acts
    obtain ⟨t, awake, later⟩ := sought_run queueing there sought woken
    -- it waits at the end, so it waits in between
    have between : ∃ w, s = .waiting w := by
      by_contra decided
      have more : f.run (f.rounds k (acts :: rest)) =
          (f.run acts).run ((f.run acts).wake k ++ (f.run woken).rounds k rest) := by
        rw [wholly, run_append, run_append]
      obtain ⟨w, waits⟩ := waits
      obtain ⟨last, there, ended⟩ := decided_run (queueing.run acts) asleep still.started
        (not_exists.mp decided) ((f.run acts).wake k ++ (f.run woken).rounds k rest)
      rw [← more, waits, Option.some.injEq] at there
      exact ended w (congrArg Job.stage there).symm
    obtain ⟨w, rfl⟩ := between
    have once : (f.tries k woken).length = (f.tries k acts).length + 1 := by
      rw [tries_append, List.length_append, tries_wake asleep]
    have others := longer (queueing.run woken) (j := { j with stage := t }) awake later
      (wholly ▸ waits)
    have all : f.tries k (f.rounds k (acts :: rest)) =
        f.tries k woken ++ (f.run woken).tries k ((f.run woken).rounds k rest) :=
      tries_append f k woken _
    rw [all, List.length_append, List.length_cons, once]
    omega

theorem locked_run (queueing : f.Queueing)
    (locked : ∀ i c, f.checkout? i = some c -> f.Locked i c.tree) (acts : List Act) :
    ∀ i c, (f.run acts).checkout? i = some c -> (f.run acts).Locked i c.tree := by
  induction acts generalizing f with
  | nil => exact locked
  | cons a rest next =>
    exact next (queueing.act a) fun i c here => locked_act queueing locked a here

theorem works_of_tried (queueing : f.Queueing) {j : Job} (there : f.jobs[k]? = some j)
    (started : j.stage ≠ .queued) {a : Act} {t : Try} (tried : f.tried? k a = some t) :
    (f.act a).Works j.repo k ↔ t.free = true := by
  obtain ⟨s, after, goes⟩ := job_act queueing there started a
  have works : (f.act a).Works j.repo k ↔ s = .working :=
    ⟨fun ⟨_, same, _, works⟩ => by simpa [← Option.some.inj (after.symm.trans same)] using works,
      fun works => ⟨_, after, rfl, works⟩⟩
  rw [works]
  generalize j.stage = before at goes
  cases goes with
  | stay none => simp [none] at tried
  | ends none => simp [none] at tried
  | @tries w other same =>
    obtain rfl : other = t := Option.some.inj (same.symm.trans tried)
    rw [Wait.after, Wait.attempt]
    cases other.free with
    | true => simp
    | false =>
      rw [if_neg Bool.false_ne_true]
      by_cases late : w.deadline ≤ other.time <;> simp [late]

theorem borrow_in {c : Checkout} (here : f.checkout? i = some c) (locked : f.Locked i c.tree)
    (idle : ∀ l, ¬ f.Works i l) :
    (f.borrow i).checkout? i =
      some { c with tree := { c.tree with readers := c.tree.readers + 1 } } := by
  have calm : c.tree.writing = false := by
    refine Bool.eq_false_iff.mpr fun writes => ?_
    obtain ⟨l, works⟩ := locked.writer.mp writes
    exact idle l works
  rw [borrow_checkout here, borrow_of_calm calm]

theorem start_ready {checkouts : List Checkout} {maxSyncs : Nat}
    (started : Fleet.start checkouts maxSyncs = .ok f) (new : ∀ c ∈ checkouts, c.tree = {}) :
    f.Queueing ∧ ∀ i c, f.checkout? i = some c -> f.Locked i c.tree := by
  unfold Fleet.start at started
  cases permits : Search.Permits.start maxSyncs with
  | error fault => simp [permits, bind, Except.bind] at started
  | ok free =>
    simp only [permits, bind, Except.bind, pure, Except.pure, Except.ok.injEq] at started
    subst started
    refine ⟨⟨List.nodup_nil, nofun⟩, fun i c here => ?_⟩
    rw [new c (List.mem_of_getElem? here)]
    exact locked_free (idle_of_done (by simp) i)

theorem entered_of_stage {j : Job} (there : f.jobs[k]? = some j) : f.Entered k ↔
    (j.stage = .working ∨ ∃ outcome, j.stage = .done outcome ∧ ∀ n, outcome ≠ .deferred n) :=
  ⟨fun ⟨_, same, has⟩ => Option.some.inj (there.symm.trans same) ▸ has, fun has => ⟨j, there, has⟩⟩

theorem outcome_of_stage {j : Job} (there : f.jobs[k]? = some j) (outcome : Outcome) :
    f.outcome? k = some outcome ↔ j.stage = .done outcome := by
  obtain ⟨repo, asker, stage⟩ := j
  rw [outcome?, there]
  cases stage <;> simp

/-- A sync that has come to wait for its tree makes so many attempts at most, and no two without a
sleep in between. It has the tree from the first attempt at which the tree is free, and no other;
it is deferred when none was free and the last one came when its patience was over, with the count
of the probes that had the tree then; and so many rounds decide it, whatever others do meanwhile. As
long as it has not got the tree it works nowhere, its acts change no checkout, and a probe gets in
unless another sync works. -/
theorem attempts_decide {checkouts : List Checkout} {maxSyncs : Nat}
    (started : Fleet.start checkouts maxSyncs = .ok f) (new : ∀ c ∈ checkouts, c.tree = {})
    (before : List Act) {repo : Nat} {asker : Asker}
    (begins : (f.run before).jobs[k]? =
      some { repo, asker, stage := .waiting (.start (f.run before).now) })
    (acts : List Act) :
    let b := f.run before
    let g := b.run acts
    let tries := b.tries k acts
    (tries.length ≤ longestWaitMillis / retryMillis + 1 ∧
      tries.Pairwise fun s t => s.time + retryMillis ≤ t.time) ∧
      (∀ t ∈ tries.dropLast, t.free = false ∧ t.time < b.now + longestWaitMillis) ∧
      (g.Entered k ↔ ∃ t ∈ tries, t.free = true) ∧
      (∀ mid a rest t, acts = mid ++ a :: rest -> (b.run mid).tried? k a = some t ->
        (((b.run mid).act a).Works repo k ↔ t.free = true)) ∧
      (∀ n, g.outcome? k = some (.deferred n) ↔
        ∃ t, tries.getLast? = some t ∧ t.free = false ∧ b.now + longestWaitMillis ≤ t.time ∧
          t.outstanding = n) ∧
      (∀ others : List (List Act), longestWaitMillis / retryMillis < others.length ->
        let h := b.run (b.rounds k others)
        h.Entered k ∨ ∃ n, h.outcome? k = some (.deferred n)) ∧
      (¬ g.Entered k -> (∀ i, ¬ g.Works i k) ∧ ∀ mid a rest, acts = mid ++ a :: rest ->
        (∀ i, ¬ (b.run mid).Works i k) ∧
          (a.concerns k -> ((b.run mid).act a).checkouts = (b.run mid).checkouts) ∧
          ∀ i c, a = .borrow i -> (b.run mid).checkout? i = some c ->
            (∀ l, l ≠ k -> ¬ (b.run mid).Works i l) -> ((b.run mid).act a).checkout? i =
              some { c with tree := { c.tree with readers := c.tree.readers + 1 } }) := by
  intro b g tries
  obtain ⟨fresh, unlocked⟩ := start_ready started new
  have queueing : b.Queueing := fresh.run before
  have locked : ∀ i c, b.checkout? i = some c -> b.Locked i c.tree :=
    locked_run fresh unlocked before
  have sought : Sought b.now [] (.waiting (.start b.now)) :=
    .waits ⟨List.Pairwise.nil, nofun, nofun⟩ rfl (Nat.le_refl _) nofun
  obtain ⟨s, ends, came⟩ := sought_run queueing begins sought acts
  have came : Sought b.now tries s := came
  have decided : ∀ others : List (List Act), longestWaitMillis / retryMillis < others.length ->
      let h := b.run (b.rounds k others)
      h.Entered k ∨ ∃ n, h.outcome? k = some (.deferred n) := by
    intro others many h
    obtain ⟨last, there, came⟩ := sought_run queueing begins sought (b.rounds k others)
    rcases came.stands with ⟨⟨w, rfl⟩, few⟩ | has | ⟨n, rfl⟩
    · have each := rounds_tries queueing begins sought others ⟨w, there⟩
      exact absurd (Nat.lt_of_lt_of_le many each) (Nat.not_lt_of_le few)
    · exact .inl ((entered_of_stage there).mpr has)
    · exact .inr ⟨n, (outcome_of_stage there _).mpr rfl⟩
  refine ⟨⟨came.length, came.spaced⟩, came.earlier, (entered_of_stage ends).trans came.entered_iff,
    fun mid a rest t _ tried => ?_, fun n => (outcome_of_stage ends _).trans (came.deferred_iff n),
    decided, fun outside => ⟨fun i works => ?_, fun mid a rest cut => ?_⟩⟩
  · obtain ⟨j, there, still⟩ := sought_run queueing begins sought mid
    exact works_of_tried (queueing.run mid) there still.started tried
  · obtain ⟨j, there, _, working⟩ := works
    exact outside ⟨j, there, .inl working⟩
  · have all : g = ((b.run mid).act a).run rest :=
      (congrArg b.run cut).trans (run_append b mid (a :: rest))
    -- once the sync has the tree it has entered for good
    have never : ¬ ((b.run mid).act a).Entered k := fun entered =>
      outside (all ▸ entered.run ((queueing.run mid).act a) rest)
    have idle : ∀ i, ¬ (b.run mid).Works i k := fun i ⟨j, there, _, working⟩ =>
      never (Entered.act ⟨j, there, .inl working⟩ (queueing.run mid) a)
    refine ⟨idle, fun own => act_checkouts (queueing.run mid) own never, ?_⟩
    rintro i c rfl here alone
    refine borrow_in here (locked_run queueing locked mid i c here) fun l works => ?_
    by_cases own : l = k
    next => exact idle i (own ▸ works)
    next => exact alone l own works

-- The first attempt finds a probe, the second comes too early to count, the third is the last that
-- sleeps again, and at the last one two probes have the tree.
theorem heldTree_deferred :
    let b := oneIdle.run [.borrow 0, .request 0 .update]
    let acts : List Act := [.attempt 0, .attempt 0, .giveBack 0, .borrow 0, .wait 29999, .attempt 0,
      .borrow 0, .wait 30024, .attempt 0]
    b.jobs[0]? = some { repo := 0, asker := .update, stage := .waiting (.start 0) } ∧
      b.tries 0 acts = [⟨0, false, 1⟩, ⟨29999, false, 1⟩, ⟨30024, false, 2⟩] ∧
      (b.run acts).outcome? 0 = some (.deferred 2) ∧ ¬ (b.run acts).Works 0 0 ∧
      ((b.run (acts.take 6)).borrow 0).outstanding 0 = 2 := by
  intro b acts
  have begins : b.jobs[0]? =
      some { repo := 0, asker := .update, stage := .waiting (.start 0) } := by decide +kernel
  have tried : b.tries 0 acts = [⟨0, false, 1⟩, ⟨29999, false, 1⟩, ⟨30024, false, 2⟩] := by
    decide +kernel
  have started : Fleet.start oneIdle.checkouts 2 = .ok oneIdle := rfl
  obtain ⟨-, -, entered, -, deferred, -, out⟩ := attempts_decide started (by decide)
    [.borrow 0, .request 0 .update] begins acts
  have outside : ¬ (b.run acts).Entered 0 := by
    rw [entered, tried]
    decide
  refine ⟨begins, tried, (deferred 2).mpr ?_, (out outside).1 0, ?_⟩
  · rw [tried]
    exact ⟨_, rfl, by decide⟩
  · have alone : ∀ l, l ≠ 0 -> ¬ (b.run (acts.take 6)).Works 0 l := by
      rintro l other ⟨j, there, -⟩
      have inside : l < 1 := (List.getElem?_eq_some_iff.mp there).1
      omega
    have within := ((out outside).2 (acts.take 6) (.borrow 0) (acts.drop 7) rfl).2.2 0 _ rfl rfl
      alone
    have within : ((b.run (acts.take 6)).borrow 0).checkout? 0 = _ := within
    rw [outstanding, within]
    rfl

end Fleet

end FleetSearch
