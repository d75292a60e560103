import FleetSearch.Proofs.Search.Blame
import FleetSearch.Proofs.Search.Release

set_option autoImplicit false

namespace FleetSearch.Search

variable {P : Type}

-- The gate has been fired or dropped.
def Seat.isLetGo : Seat P -> Bool
  | .freed => true
  | .released => true
  | _ => false

theorem Seat.Goes.hasPermit {sources : List (Source P)} {i : Nat} {m : Move} {s next : Seat P}
    (goes : Goes sources i m s next) (other : m ≠ .launch) (after : next.hasPermit = true) :
    s.hasPermit = true := by
  cases goes <;> simp_all [Seat.hasPermit]

theorem Seat.isProbing_of_hasPermit {s : Seat P} (none : s.hasPermit = false) :
    s.isProbing = false := by
  cases s <;> simp_all [hasPermit, isProbing]

theorem Seat.Goes.isLetGo {sources : List (Source P)} {i : Nat} {m : Move} {s next : Seat P}
    (goes : Goes sources i m s next) (before : s.isLetGo = true) : next.isLetGo = true := by
  cases goes <;> simp_all [Seat.isLetGo]

namespace Run

theorem record_seats (r : Run P) (i : Nat) (found : Bool) : (r.record i found).seats = r.seats := by
  unfold record
  dsimp only
  split <;> rfl

theorem receive_seats {r : Run P} {i : Nat} {report : Except String (Finding P)}
    (seat : r.seat i = .reported report) :
    ∃ s, (receive r i).seats = r.seats.set i s ∧ s.isOpen = false := by
  cases report with
  | error message => exact ⟨.freed, by simp [receive, seat, decide, put], rfl⟩
  | ok finding =>
    refine ⟨finding.seat, by simp [receive, seat, record_seats, put, Finding.seat], ?_⟩
    unfold Finding.seat
    split <;> rfl

theorem isOpen_of_receives (sources : List (Source P)) {r : Run P} {m : Move} {i : Nat}
    {receipt : Receipt P} {report : Except String (Finding P)} (member : receipt ∈ r.receives m)
    (message : receipt.message = .report i report) :
    (seatAt (r.move sources m).1.seats i).isOpen = false := by
  unfold receives at member
  split at member
  next j rest phase mail =>
    split at member
    next other seat =>
      obtain rfl := List.mem_singleton.mp member
      cases message
      have went : r.advance? = some (receive { r with reports := rest } i, []) := by
        unfold advance?
        split <;> simp_all [quiet, receive?]
      have moved : (r.move sources .advance).1 = receive { r with reports := rest } i := by
        rw [move, went, Option.getD_some]
      obtain ⟨s, seats, closed⟩ := receive_seats (r := { r with reports := rest }) seat
      have inside : i < r.seats.length :=
        lt_length_of_seatAt (by simp [show seatAt r.seats i = _ from seat])
      rw [moved, seats, seatAt_set_self inside, closed]
    next => cases member
  next =>
    split at member
    next =>
      obtain rfl := List.mem_singleton.mp member
      cases message
    next => cases member
  next => cases member

def Closed (r : Run P) (log : List (Receipt P)) : Prop :=
  ∀ receipt ∈ log, ∀ i report, receipt.message = .report i report ->
    (seatAt r.seats i).isOpen = false

theorem play_closed {sources : List (Source P)} {width : Nat} {r : Run P} {log : List (Receipt P)}
    (lawful : r.Lawful sources width) (closed : r.Closed log) (moves : List Move) :
    (r.play sources moves).1.Closed (log ++ r.receipts sources moves) := by
  induction moves generalizing r log with
  | nil => simpa [play, receipts] using closed
  | cons m rest ih =>
    have step := move_step sources r m
    have now : (r.move sources m).1.Closed (log ++ r.receives m) := by
      intro receipt member i report message
      rcases List.mem_append.mp member with old | new
      · by_contra opens
        have before := (step.goes lawful.controlled i).isOpen (by simpa using opens)
        simp [closed receipt old i report message] at before
      · exact isOpen_of_receives sources new message
    have later := ih (step.lawful lawful) now
    rwa [List.append_assoc] at later

theorem isSilent_iff (r : Run P) :
    r.isSilent = true ↔ r.launching = false ∧ ∀ i, (seatAt r.seats i).hasPermit = false := by
  rw [isSilent, Bool.and_eq_true, Bool.not_eq_true', Bool.not_eq_true',
    any_eq_false_iff Seat.hasPermit rfl]

structure Attended (r : Run P) : Prop where
  silent : r.phase ≠ .aborted -> r.listening = false -> r.isSilent = true
  ended : ∀ failure, r.phase = .done (.error failure) -> r.listening = false

namespace Step

variable {sources : List (Source P)} {width : Nat} {r next : Run P} {m : Move}
  {events : List (Event P)}

theorem silent (step : Step sources r m events next) (held : r.Controlled width)
    (silent : r.isSilent = true) : next.isSilent = true := by
  obtain ⟨gone, calm⟩ := (isSilent_iff r).mp silent
  refine (isSilent_iff next).mpr ⟨?_, fun i => ?_⟩
  · cases step with
    | leave => rfl
    | _ => exact gone
  · by_contra wanted
    have goes := step.goes held i
    have before : m ≠ .launch -> (seatAt r.seats i).hasPermit = true :=
      fun other => goes.hasPermit other (by simpa using wanted)
    cases step with
    | idle => exact wanted (calm i)
    | take permits launching => simp [gone] at launching
    | spawn launching => simp [gone] at launching
    | leave launching => simp [gone] at launching
    | reap m i rest mail which =>
      have other : m ≠ .launch := by
        rcases which with ⟨rfl, _⟩ | ⟨rfl, _⟩ <;> nofun
      simp [calm] at before
      exact other before
    | _ => simp [calm] at before

theorem attended (step : Step sources r m events next) (held : r.Controlled width)
    (old : r.Attended) : next.Attended := by
  have flags := held.flagged.phase
  have still := step.silent held
  cases step with
  | idle => exact old
  | release | take | spawn | leave | call | reap | loseProbe | report | missReport | missResult =>
    exact ⟨fun wanted deaf => still (old.silent wanted deaf), old.ended⟩
  | refuse _ _ _ phase | settle _ _ _ phase | desert phase | close _ phase | letGo _ phase
    | dispatch phase
    | collect _ _ _ _ _ _ phase | spoil _ _ _ _ _ _ phase | fail _ _ _ _ phase =>
    exact ⟨fun _ deaf => still (old.silent (by simp [phase]) deaf),
      fun failure ended => by cases ended⟩
  | record _ _ _ phase | strayReport _ _ phase | strayResult _ _ _ _ _ phase
    | bring _ _ _ _ _ _ _ _ phase =>
    refine ⟨fun wanted deaf => still (old.silent (by simp [phase]) deaf), fun failure ended => ?_⟩
    simp [put, phase] at ended
  | drained failure phase mail silent => exact ⟨fun _ _ => still silent, fun _ _ => rfl⟩
  | reaped reaping mail silent => exact ⟨fun _ _ => still silent, fun _ _ => rfl⟩
  | page dispatched harvests phase =>
    exact ⟨fun _ deaf => still (old.silent (by simp [phase]) deaf),
      fun failure ended => by cases ended⟩
  | giveIn failure phase calm =>
    refine ⟨fun _ deaf => still (old.silent (by simp [phase]) deaf), fun _ _ => ?_⟩
    simp only [phase] at flags
    exact flags.2.2.trans calm
  | abandon | abandonFetches | abandonFailure => 
    exact ⟨fun wanted => absurd rfl wanted, fun failure ended => by cases ended⟩

end Step

theorem play_attended {sources : List (Source P)} {width : Nat} {r : Run P}
    (held : r.Controlled width) (attended : r.Attended) (moves : List Move) :
    (r.play sources moves).1.Attended := by
  induction moves generalizing r with
  | nil => exact attended
  | cons m rest ih =>
    have step := move_step sources r m
    exact ih (step.controlled held) (step.attended held attended)

theorem start_attended (repos : List String) (request : Request) (maxProbes nextLimit : Nat) :
    (start repos request maxProbes nextLimit : Run P).Attended := by
  simp only [start]
  split
  next =>
    refine ⟨fun _ _ => (isSilent_iff _).mpr ⟨rfl, fun i => ?_⟩, fun failure ended => by cases ended⟩
    rw [seatAt_replicate]
    rfl
  next => exact ⟨fun _ deaf => (by cases deaf), fun failure ended => by cases ended⟩

theorem Step.done {sources : List (Source P)} {r next : Run P} {m : Move}
    {events : List (Event P)} (step : Step sources r m events next)
    {outcome : Except Failure Page} (ended : r.phase = .done outcome) :
    next.phase = .done outcome := by
  cases step with
  | idle | release | take | spawn | leave | call | reap | reaped | loseProbe | report | missReport
    | missResult => exact ended
  | abandon early => obtain phase | ⟨failure, phase⟩ | ⟨failure, phase⟩ := early <;> simp_all
  | _ => simp_all

theorem play_done {sources : List (Source P)} {r : Run P} {outcome : Except Failure Page}
    (ended : r.phase = .done outcome) (moves : List Move) :
    (r.play sources moves).1.phase = .done outcome := by
  induction moves generalizing r with
  | nil => exact ended
  | cons m rest ih => exact ih ((move_step sources r m).done ended)

theorem play_letGo {sources : List (Source P)} {width : Nat} {r : Run P}
    (lawful : r.Lawful sources width) {i : Nat} (letGo : (seatAt r.seats i).isLetGo = true)
    (moves : List Move) : (seatAt (r.play sources moves).1.seats i).isLetGo = true := by
  induction moves generalizing r with
  | nil => exact letGo
  | cons m rest ih =>
    have step := move_step sources r m
    exact ih (step.lawful lawful) ((step.goes lawful.controlled i).isLetGo letGo)

namespace Lawful

variable {sources : List (Source P)} {width : Nat} {r : Run P} {outcome : Except Failure Page}

theorem fetched_of_done (lawful : r.Lawful sources width) (phase : r.phase = .done outcome) :
    r.results = [] ∧ ∀ i, r.isFetching i = false := by
  have admitted := lawful.controlled.admitted
  rw [phase] at admitted
  constructor
  · refine List.eq_nil_iff_forall_not_mem.mpr fun i member => ?_
    have there := (lawful.controlled.mailed.results.members i).mp member
    have absent := admitted i
    simp [Phase.admits, there] at absent
  · intro i
    have absent := admitted i
    rw [isFetching, show r.seat i = seatAt r.seats i from rfl]
    simp_all [Phase.admits]

theorem seat_of_done (lawful : r.Lawful sources width) (attended : r.Attended)
    (phase : r.phase = .done outcome) (i : Nat) :
    r.seat i = .waiting ∨ (r.seat i).isLetGo = true ∨ r.seat i = .lost ∨
      r.reaping = true ∧ (r.seat i = .spawned ∨ r.isProbing i = true ∨ i ∈ r.reports) := by
  have flags := lawful.controlled.flagged
  have admitted := lawful.controlled.admitted i
  have mailed := lawful.controlled.mailed.reports.members i
  have same : r.listening = r.reaping := by
    have flags := flags.phase
    simp only [phase] at flags
    exact flags.2.2
  have awaited : (seatAt r.seats i).hasPermit = true -> r.reaping = true := fun wanted => by
    by_contra calm
    have deaf : r.listening = false := same.trans (by simpa using calm)
    have none := ((isSilent_iff r).mp (attended.silent (by simp [phase]) deaf)).2 i
    simp [wanted] at none
  rw [isProbing, show r.seat i = seatAt r.seats i from rfl]
  cases seat : seatAt r.seats i with
  | waiting => exact .inl rfl
  | freed | released => exact .inr (.inl rfl)
  | lost => exact .inr (.inr (.inl rfl))
  | spawned => exact .inr (.inr (.inr ⟨awaited (by rw [seat]; rfl), .inl rfl⟩))
  | probing => exact .inr (.inr (.inr ⟨awaited (by rw [seat]; rfl), .inr (.inl rfl)⟩))
  | reported report =>
    have waits : i ∈ r.reports := mailed.mpr (by rw [seat]; rfl)
    have heard := flags.heard (List.ne_nil_of_mem waits)
    exact .inr (.inr (.inr ⟨same ▸ heard, .inr (.inr waits)⟩))
  | held | fetching | fetched =>
    simp [phase, seat, Phase.admits, Seat.isHeld, Seat.isFetching, Seat.isFetched] at admitted

theorem calm_of_failed (lawful : r.Lawful sources width) (attended : r.Attended) {failure : Failure}
    (phase : r.phase = .done (.error failure)) :
    r.reports = [] ∧ r.reaping = false ∧ ∀ i, (r.seat i).hasPermit = false := by
  have deaf := attended.ended failure phase
  have flags := lawful.controlled.flagged
  have same := flags.phase
  simp only [phase] at same
  refine ⟨?_, by rw [← same.2.2, deaf],
    ((isSilent_iff r).mp (attended.silent (by simp [phase]) deaf)).2⟩
  by_contra mail
  simp [flags.heard mail] at deaf

theorem released_of_failed (lawful : r.Lawful sources width) (attended : r.Attended)
    (room : 0 < r.names.length -> 0 < width) {failure : Failure}
    (phase : r.phase = .done (.error failure)) :
    r.settle.1.Rests ∧ ∀ i, (r.seat i).isLetGo = true -> r.settle.1.seat i = .released := by
  obtain ⟨moves, own, settled⟩ := settle_play sources r
  have still := settle_rests lawful.controlled
  rw [settled] at still ⊢
  have later := play_lawful r lawful moves
  have after : (r.play sources moves).1.Attended := play_attended lawful.controlled attended moves
  have ended : (r.play sources moves).1.phase = .done (.error failure) := play_done phase moves
  have quiet := (later.calm_of_failed after ended).2.2
  have rests : (r.play sources moves).1.Rests :=
    ⟨still, (any_eq_false_iff _ rfl _).mpr fun i => Seat.isProbing_of_hasPermit (quiet i),
      (any_eq_false_iff _ rfl _).mpr (later.fetched_of_done ended).2⟩
  refine ⟨rests, fun i letGo => ?_⟩
  have letGo := play_letGo lawful letGo moves
  have roomy : 0 < (r.play sources moves).1.names.length -> 0 < width :=
    fun more => room (by rwa [later.length, ← lawful.length] at more)
  rcases rests.seat later roomy i with seat | seat | seat
  · simp [seat, Seat.isLetGo] at letGo
  · exact seat
  · simp [seat, Seat.isLetGo] at letGo

theorem settled_of_paged (lawful : r.Lawful sources width) (attended : r.Attended)
    (phase : r.phase = .done outcome) (settled : r.next = none) (i : Nat) :
    r.seat i = .waiting ∨ r.seat i = .released ∨ r.seat i = .lost ∨ r.isProbing i = true := by
  obtain ⟨released, _, reaped, called, _⟩ := still_of_next settled
  have shut : (seatAt r.seats i).isFreed = false := by
    refine (any_eq_false_iff Seat.isFreed rfl r.seats).mp ?_ i
    rw [release?, Option.map_eq_none_iff, List.findIdx?_eq_none_iff] at released
    simpa using released
  rcases lawful.seat_of_done attended phase i with waiting | letGo | lost | ⟨reaping, left⟩
  · exact .inl waiting
  · rw [show r.seat i = seatAt r.seats i from rfl] at letGo ⊢
    cases seat : seatAt r.seats i <;> simp_all [Seat.isLetGo, Seat.isFreed]
  · exact .inr (.inr (.inl lost))
  · rw [reaper?, if_pos reaping, quiet, Option.map_eq_none_iff] at reaped
    have unspawned := (any_eq_false_iff Seat.isSpawned rfl r.seats).mp (called_of_call? called) i
    rw [(silent_of_reap? reaped).1] at left
    rcases left with spawned | probing | none
    · simp [show seatAt r.seats i = _ from spawned, Seat.isSpawned] at unspawned
    · exact .inr (.inr (.inr probing))
    · simp at none

end Lawful

end Run

namespace Runs

theorem attended (sources : Nat -> List (Source P)) (maxProbes nextLimit : Nat) (turns : List Turn)
    (k : Nat) (r : Run P)
    (there : ((idle maxProbes nextLimit).play sources turns).1.runs[k]? = some r) :
    r.Attended ∧ r.Closed ((idle maxProbes nextLimit).receipts sources k turns) := by
  obtain ⟨request, moves, lawful, same, log⟩ :=
    receipts_begun sources maxProbes nextLimit turns k r there
  have fresh := Run.start_attended (P := P) ((sources k).map Source.name) request (max maxProbes 1)
    nextLimit
  have begun : (Run.start ((sources k).map Source.name) request (max maxProbes 1) nextLimit :
      Run P).Closed [] := nofun
  have closed := Run.play_closed lawful begun moves
  rw [← same] at closed
  exact ⟨same ▸ Run.play_attended lawful.controlled fresh moves, log ▸ closed⟩

/-- What run `k` leaves behind when it has ended. No fetch executes. After a failure no probe does
either, no message waits, and every repository that was probed is released at once, unless its probe
worker died. After a page every probe whose report was received has been let go, and any other one
is about to execute or executes, or its report waits for the reaper, or has been taken by it, unless
the worker died; so when the run has settled, a probe is unreleased only if it executes or its worker
died. -/
theorem ended_run_leaves (sources : Nat -> List (Source P)) (maxProbes nextLimit : Nat)
    (turns : List Turn) (k : Nat) (r : Run P) (outcome : Except Failure Page)
    (there : ((idle maxProbes nextLimit).play sources turns).1.runs[k]? = some r)
    (ended : r.outcome? = some outcome) :
    let played := (idle maxProbes nextLimit).play sources turns
    let log := (idle maxProbes nextLimit).receipts sources k turns
    (∀ i, ((r.seat i).isCalled = true ↔ 0 < probes k (r.offset + i) played.2) ∧
        (r.seat i = .released ↔ 0 < releases k (r.offset + i) played.2) ∧
        (r.seat i = .lost -> probeAt (sources k) (r.offset + i) = .lost)) ∧
      (∀ i, r.isFetching i = false) ∧ r.results = [] ∧
      match outcome with
      | .error _ =>
        (∀ i, (r.seat i).hasPermit = false) ∧ r.reports = [] ∧
          (∀ i, r.seat i = .waiting ∨ r.seat i = .lost ∨ (r.seat i).isLetGo = true) ∧
          r.settle.1.Rests ∧ ∀ i, (r.seat i).isLetGo = true -> r.settle.1.seat i = .released
      | .ok _ =>
        (∀ receipt ∈ log, ∀ i report, receipt.message = .report i report ->
            (r.seat i).isLetGo = true) ∧
          (∀ i, r.seat i = .waiting ∨ (r.seat i).isLetGo = true ∨ r.seat i = .lost ∨
            r.reaping = true ∧ (r.seat i = .spawned ∨ r.isProbing i = true ∨ i ∈ r.reports)) ∧
          (r.next = none -> ∀ i, r.seat i = .waiting ∨ r.seat i = .released ∨ r.seat i = .lost ∨
            r.isProbing i = true) := by
  intro played log
  have phase := Run.phase_of_outcome ended
  obtain ⟨_, reached⟩ := Runs.reached sources maxProbes nextLimit turns k r there
  obtain ⟨attended, closed⟩ := attended sources maxProbes nextLimit turns k r there
  have lawful := reached.lawful
  have fetched := lawful.fetched_of_done phase
  refine ⟨fun i => ⟨?_, ?_, ?_⟩, fetched.2, fetched.1, ?_⟩
  · have probed : probes k (r.offset + i) played.2 = _ := reached.probes (r.offset + i)
    rw [probed, Nat.add_sub_cancel_left, show r.seat i = seatAt r.seats i from rfl]
    cases seatAt r.seats i <;> simp [Seat.isCalled]
  · have released : releases k (r.offset + i) played.2 = _ := reached.releases (r.offset + i)
    rw [released, Nat.add_sub_cancel_left, show r.seat i = seatAt r.seats i from rfl]
    cases seatAt r.seats i <;> simp [Seat.isReleased]
  · intro lost
    have truth := lawful.sound i
    rwa [show seatAt r.seats i = _ from lost, Seat.Sound, probeAt_drop] at truth
  · cases outcome with
    | error failure =>
      obtain ⟨mail, calm, quiet⟩ := lawful.calm_of_failed attended phase
      obtain ⟨rests, released⟩ := lawful.released_of_failed attended reached.room phase
      refine ⟨quiet, mail, fun i => ?_, rests, released⟩
      rcases lawful.seat_of_done attended phase i with waiting | letGo | lost | ⟨reaping, _⟩
      · exact .inl waiting
      · exact .inr (.inr letGo)
      · exact .inr (.inl lost)
      · simp [calm] at reaping
    | ok page =>
      refine ⟨fun receipt member i report message => ?_, lawful.seat_of_done attended phase,
        lawful.settled_of_paged attended phase⟩
      have shut := closed receipt member i report message
      have stands := lawful.seat_of_done attended phase i
      have absent := (lawful.controlled.mailed.reports.members i).mp
      rw [Run.isProbing, show r.seat i = seatAt r.seats i from rfl] at *
      cases seat : seatAt r.seats i <;>
        simp_all [Seat.isOpen, Seat.isLetGo, Seat.isProbing, Seat.isReported]

-- The first match fills the page while the worker of the second probe dies and the third probe goes
-- on.
def besideLost : List Turn :=
  .begin { query := "q", limit := 1 } ::
    List.map (Turn.move 0) (Move.opening 3 ++ [.endProbe 0, .endProbe 1, .advance, .advance,
      .launch, .advance, .endFetch 0, .advance, .release 0, .advance])

theorem besideLost_page :
    ∃ r page, ((idle 3 9).play (fun _ => reapedProbes) besideLost).1.runs[0]? = some r ∧
      r.outcome? = some (.ok page) ∧ r.next = none ∧ (r.seat 1).isLetGo = false ∧
      r.isProbing 1 = false ∧ r.reports = [] := by
  have stands : (((idle 3 9).play (fun _ => reapedProbes) besideLost).1.runs[0]?.any fun r =>
      r.outcome?.any Except.isOk && r.next.isNone && !(r.seat 1).isLetGo && !r.isProbing 1 &&
        r.reports.isEmpty) = true := by
    decide +kernel
  obtain ⟨r, there, stands⟩ := (Option.any_eq_true _ _).mp stands
  simp only [Bool.and_eq_true, Bool.not_eq_true', Option.isNone_iff_eq_none,
    List.isEmpty_iff] at stands
  obtain ⟨⟨⟨⟨ended, settled⟩, shut⟩, still⟩, mail⟩ := stands
  obtain ⟨outcome, ended, ok⟩ := (Option.any_eq_true _ _).mp ended
  cases outcome with
  | error failure => cases ok
  | ok page => exact ⟨r, page, there, ended, settled, shut, still, mail⟩

-- The third probe reports while the first match is fetched.
def takenLate : List Turn :=
  .begin { query := "q", limit := 1 } ::
    List.map (Turn.move 0) (Move.opening 3 ++ [.endProbe 0, .advance, .advance, .launch, .advance,
      .endProbe 2, .reap, .endFetch 0, .advance, .advance])

/-- A page can leave a probe unreleased that does not execute and whose report waits nowhere, since
its worker died; and one that the run never heard of, since the reaper was there first. -/
theorem besideLost_unreleased :
    (∃ r page, ((idle 3 9).play (fun _ => reapedProbes) besideLost).1.runs[0]? = some r ∧
      r.outcome? = some (.ok page) ∧ r.next = none ∧
      probes 0 1 ((idle 3 9).play (fun _ => reapedProbes) besideLost).2 = 1 ∧
      releases 0 1 ((idle 3 9).play (fun _ => reapedProbes) besideLost).2 = 0 ∧
      ¬ ((r.seat 1).isLetGo = true ∨ r.isProbing 1 = true ∨ 1 ∈ r.reports)) ∧
    ∃ r page, ((idle 3 9).play (fun _ => reapedProbes) takenLate).1.runs[0]? = some r ∧
      r.outcome? = some (.ok page) ∧
      probes 0 2 ((idle 3 9).play (fun _ => reapedProbes) takenLate).2 = 1 ∧
      (∀ receipt ∈ (idle 3 9).receipts (fun _ => reapedProbes) 0 takenLate,
        receipt.message.isReportOf 2 = false) ∧
      (r.seat 2).isLetGo = true ∧ ¬ (r.isProbing 2 = true ∨ 2 ∈ r.reports) := by
  constructor
  · obtain ⟨r, page, there, ended, settled, shut, still, mail⟩ := besideLost_page
    have told : probes 0 1 ((idle 3 9).play (fun _ => reapedProbes) besideLost).2 = 1 ∧
        releases 0 1 ((idle 3 9).play (fun _ => reapedProbes) besideLost).2 = 0 := by
      decide +kernel
    exact ⟨r, page, there, ended, settled, told.1, told.2, by simp [shut, still, mail]⟩
  · have stands : (((idle 3 9).play (fun _ => reapedProbes) takenLate).1.runs[0]?.any fun r =>
        r.outcome?.any Except.isOk && (r.seat 2).isLetGo && !r.isProbing 2 &&
          r.reports.isEmpty) = true := by
      decide +kernel
    obtain ⟨r, there, stands⟩ := (Option.any_eq_true _ _).mp stands
    simp only [Bool.and_eq_true, Bool.not_eq_true', List.isEmpty_iff] at stands
    obtain ⟨⟨⟨ended, letGo⟩, still⟩, mail⟩ := stands
    obtain ⟨outcome, ended, ok⟩ := (Option.any_eq_true _ _).mp ended
    cases outcome with
    | error failure => cases ok
    | ok page =>
      exact ⟨r, page, there, ended, by decide +kernel, by decide +kernel, letGo,
        by simp [still, mail]⟩

theorem besideLost_leaves :
    (∃ r, ((idle 3 9).play (fun _ => reapedProbes) besideLost).1.runs[0]? = some r ∧
        ∀ i, r.seat i = .waiting ∨ r.seat i = .released ∨ r.seat i = .lost ∨
          r.isProbing i = true) ∧
      ∃ r, ((idle 3 9).play (fun _ => oneOfThree) earlyFailure).1.runs[0]? = some r ∧
        r.settle.1.Rests ∧ (r.settle.1).seat 0 = .released := by
  constructor
  · obtain ⟨r, page, there, ended, settled, _⟩ := besideLost_page
    have left := ended_run_leaves (fun _ => reapedProbes) 3 9 besideLost 0 r (.ok page) there ended
    exact ⟨r, there, left.2.2.2.2.2 settled⟩
  · have stands : (((idle 3 9).play (fun _ => oneOfThree) earlyFailure).1.runs[0]?.any fun r =>
        r.outcome?.any (fun outcome => !outcome.isOk) && (r.seat 0).isLetGo) = true := by
      decide +kernel
    obtain ⟨r, there, stands⟩ := (Option.any_eq_true _ _).mp stands
    rw [Bool.and_eq_true] at stands
    obtain ⟨outcome, ended, fails⟩ := (Option.any_eq_true _ _).mp stands.1
    cases outcome with
    | ok page => cases fails
    | error failure =>
      have left := ended_run_leaves (fun _ => oneOfThree) 3 9 earlyFailure 0 r (.error failure)
        there ended
      exact ⟨r, there, left.2.2.2.2.2.2.1, left.2.2.2.2.2.2.2 0 stands.2⟩

end Runs

end FleetSearch.Search
