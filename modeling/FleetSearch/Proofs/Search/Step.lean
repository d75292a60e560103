import FleetSearch.Proofs.Search.Schedule

set_option autoImplicit false

/-!
What a move can do to a run, case by case. Everything that is proved of all schedules is proved of
these steps; the functions behind the moves are opened here and nowhere else.
-/

namespace FleetSearch.Search

variable {P : Type}

def Finding.seat (finding : Finding P) : Seat P :=
  if finding.found then .held finding.payload else .freed

namespace Run

def dispatchSeats (cutoff : Nat) (seats : List (Seat P)) : List (Seat P) :=
  (seats.take cutoff).map Seat.fetch ++ (seats.drop cutoff).map Seat.freeHeld

inductive Step (sources : List (Source P)) (r : Run P) : Move -> List (Event P) -> Run P -> Prop
  | idle (m : Move) : Step sources r m [] r
  | release (i : Nat) (seat : r.seat i = .freed) :
    Step sources r (.release i) [.release i] (r.put i .released)
  -- the launcher
  | take (permits : Nat) (launching : r.launching = true) (empty : r.holding = false)
      (unclosed : r.closed = false) (more : r.launched < r.names.length)
      (free : r.permits = permits + 1) :
    Step sources r .launch [] { r with permits, holding := true }
  | spawn (launching : r.launching = true) (holding : r.holding = true) :
    Step sources r .launch []
      { r.put r.launched .spawned with holding := false, launched := r.launched + 1 }
  | leave (launching : r.launching = true) (empty : r.holding = false)
      (spent : r.closed = true ∨ r.names.length ≤ r.launched) :
    Step sources r .launch [] { r with launching := false }
  | call (i : Nat) (seat : r.seat i = .spawned) :
    Step sources r (.call i) [.probe i] (r.put i .probing)
  -- the run receives reports
  | refuse (i : Nat) (rest : List Nat) (message : String) (phase : r.phase = .deciding)
      (mail : r.reports = i :: rest) (seat : r.seat i = .reported (.error message)) :
    Step sources r .advance []
      { r.put i .freed with
        reports := rest
        phase := .decided (some (.probe (r.nameOf i) message)) }
  | settle (i : Nat) (rest : List Nat) (finding : Finding P) (phase : r.phase = .deciding)
      (mail : r.reports = i :: rest) (seat : r.seat i = .reported (.ok finding))
      (settled : (r.cutoff.record i finding.found).settled = true) :
    Step sources r .advance []
      { r.put i finding.seat with
        reports := rest
        cutoff := r.cutoff.record i finding.found
        phase := .decided none }
  | record (i : Nat) (rest : List Nat) (finding : Finding P) (phase : r.phase = .deciding)
      (mail : r.reports = i :: rest) (seat : r.seat i = .reported (.ok finding))
      (unsettled : (r.cutoff.record i finding.found).settled = false) :
    Step sources r .advance []
      { r.put i finding.seat with
        reports := rest
        cutoff := r.cutoff.record i finding.found }
  | strayReport (i : Nat) (rest : List Nat) (phase : r.phase = .deciding)
      (mail : r.reports = i :: rest) (stray : ∀ report, r.seat i ≠ .reported report) :
    Step sources r .advance [] { r with reports := rest }
  | desert (phase : r.phase = .deciding) (mail : r.reports = []) (silent : r.isSilent = true) :
    Step sources r .advance []
      { r with phase := .decided (some (.workerLost (r.nameOf r.cutoff.firstOpen))) }
  | close (failure : Option Failure) (phase : r.phase = .decided failure) :
    Step sources r .advance [] { r with closed := true, phase := .closing failure }
  -- the launcher is gone
  | letGo (failure : Failure) (phase : r.phase = .closing (some failure))
      (gone : r.launching = false) :
    Step sources r .advance []
      { r with seats := r.seats.map Seat.freeHeld, phase := .draining failure }
  | dispatch (phase : r.phase = .closing none) (gone : r.launching = false) :
    Step sources r .advance (r.chosen.flatMap r.fetchEvent)
      { r with
        seats := dispatchSeats r.cutoff.firstOpen r.seats
        phase := .fetching r.chosen [] none
        reaping := true }
  -- the run or the reaper opens the gates of late reports
  | reap (m : Move) (i : Nat) (rest : List Nat) (mail : r.reports = i :: rest)
      (calm : m = .advance ∧ (∃ failure, r.phase = .draining failure)
        ∨ m = .reap ∧ r.reaping = true) :
    Step sources r m [] { r.put i .freed with reports := rest }
  | drained (failure : Failure) (phase : r.phase = .draining failure) (mail : r.reports = [])
      (silent : r.isSilent = true) :
    Step sources r .advance [] { r with listening := false, phase := .done (.error failure) }
  | reaped (reaping : r.reaping = true) (mail : r.reports = []) (silent : r.isSilent = true) :
    Step sources r .reap [] { r with listening := false, reaping := false }
  -- the run collects results
  | collect (dispatched : List Nat) (harvests : List (Nat × Harvest)) (failure : Option Failure)
      (i : Nat) (rest : List Nat) (harvest : Harvest)
      (phase : r.phase = .fetching dispatched harvests failure)
      (mail : r.results = i :: rest) (seat : r.seat i = .fetched (.ok harvest)) :
    Step sources r .advance []
      { r.put i .freed with
        results := rest
        phase := .fetching dispatched (insertHarvest i harvest harvests) failure }
  | spoil (dispatched : List Nat) (harvests : List (Nat × Harvest)) (failure : Option Failure)
      (i : Nat) (rest : List Nat) (message : String)
      (phase : r.phase = .fetching dispatched harvests failure)
      (mail : r.results = i :: rest) (seat : r.seat i = .fetched (.error message)) :
    Step sources r .advance []
      { r.put i .freed with
        results := rest
        phase := .fetching dispatched harvests
          (failure.or (some (.fetch (r.nameOf i) message))) }
  | strayResult (dispatched : List Nat) (harvests : List (Nat × Harvest))
      (failure : Option Failure) (i : Nat) (rest : List Nat)
      (phase : r.phase = .fetching dispatched harvests failure)
      (mail : r.results = i :: rest) (stray : ∀ result, r.seat i ≠ .fetched result) :
    Step sources r .advance [] { r.put i .freed with results := rest }
  | fail (dispatched : List Nat) (harvests : List (Nat × Harvest)) (failure : Option Failure)
      (blamed : Failure) (phase : r.phase = .fetching dispatched harvests failure)
      (mail : r.results = []) (quiet : r.seats.any Seat.isFetching = false)
      (blame : failure.or (r.lostFetch? dispatched harvests) = some blamed) :
    Step sources r .advance [] { r with phase := .failing blamed }
  | page (dispatched : List Nat) (harvests : List (Nat × Harvest))
      (phase : r.phase = .fetching dispatched harvests none)
      (mail : r.results = []) (quiet : r.seats.any Seat.isFetching = false)
      (complete : r.lostFetch? dispatched harvests = none) :
    Step sources r .advance [] { r with phase := .done (.ok (r.page harvests)) }
  | giveIn (failure : Failure) (phase : r.phase = .failing failure) (calm : r.reaping = false) :
    Step sources r .advance [] { r with phase := .done (.error failure) }
  -- probes end
  | loseProbe (i : Nat) (seat : r.seat i = .probing) (lost : probeAt sources i = .lost) :
    Step sources r (.endProbe i) [] { r.put i .lost with permits := r.permits + 1 }
  | report (i : Nat) (report : Except String (Finding P)) (seat : r.seat i = .probing)
      (reports : (probeAt sources i).report? .probe = some report)
      (listening : r.listening = true) :
    Step sources r (.endProbe i) []
      { r.put i (.reported report) with permits := r.permits + 1, reports := r.reports ++ [i] }
  | missReport (i : Nat) (seat : r.seat i = .probing) (reports : probeAt sources i ≠ .lost)
      (deaf : r.listening = false) :
    Step sources r (.endProbe i) [] { r.put i .freed with permits := r.permits + 1 }
  -- fetches end
  | bring (dispatched : List Nat) (harvests : List (Nat × Harvest)) (failure : Option Failure)
      (i : Nat) (payload : P) (result : Except String Harvest)
      (seat : r.seat i = .fetching payload)
      (brings : (fetchAt sources i payload).report? .fetch = some result)
      (phase : r.phase = .fetching dispatched harvests failure) :
    Step sources r (.endFetch i) []
      { r.put i (.fetched result) with results := r.results ++ [i] }
  | missResult (i : Nat) (payload : P) (seat : r.seat i = .fetching payload)
      (deaf : fetchAt sources i payload = .lost ∨ isFetchPhase r.phase = false) :
    Step sources r (.endFetch i) [] (r.put i .freed)
  -- whoever asked gives up
  | abandon (early : r.phase = .deciding ∨ (∃ failure, r.phase = .closing failure)
      ∨ ∃ failure, r.phase = .draining failure) :
    Step sources r .abort []
      { r with
        seats := r.seats.map Seat.freeReported
        reports := []
        listening := false
        phase := .aborted }
  | abandonFetches (dispatched : List Nat) (harvests : List (Nat × Harvest))
      (failure : Option Failure) (phase : r.phase = .fetching dispatched harvests failure) :
    Step sources r .abort []
      { r with seats := r.seats.map Seat.freeFetched, results := [], phase := .aborted }
  | abandonFailure (failure : Failure) (phase : r.phase = .failing failure) :
    Step sources r .abort [] { r with phase := .aborted }

theorem receive_step (sources : List (Source P)) (r : Run P) (i : Nat) (rest : List Nat)
    (phase : r.phase = .deciding) (mail : r.reports = i :: rest) :
    Step sources r .advance [] (receive { r with reports := rest } i) := by
  have same : ({ r with reports := rest } : Run P).seat i = r.seat i := rfl
  unfold receive
  rw [same]
  split
  next message seat => exact .refuse i rest message phase mail seat
  next finding seat =>
    by_cases settled : (r.cutoff.record i finding.found).settled = true
    next =>
      have step : Step sources r .advance [] _ := .settle i rest finding phase mail seat settled
      simpa [Run.record, put, decide, settled, Finding.seat] using step
    next =>
      have step : Step sources r .advance [] _ :=
        .record i rest finding phase mail seat (by simpa using settled)
      simpa [Run.record, put, settled, Finding.seat] using step
  next refused found =>
    refine .strayReport i rest phase mail fun report seat => ?_
    cases report with
    | error message => exact refused message seat
    | ok finding => exact found finding seat

theorem reap_step (sources : List (Source P)) (r next : Run P) (m : Move)
    (finish : Run P -> Run P) (went : r.reap? finish = some next)
    (calm : m = .advance ∧ (∃ failure, r.phase = .draining failure)
      ∨ m = .reap ∧ r.reaping = true)
    (finished : r.reports = [] -> r.isSilent = true ->
      Step sources r m [] (finish { r with listening := false })) :
    Step sources r m [] next := by
  unfold reap? at went
  split at went
  next i rest mail =>
    cases went
    exact .reap m i rest mail calm
  next mail =>
    by_cases silent : r.isSilent = true
    next =>
      rw [if_pos silent] at went
      cases went
      exact finished mail silent
    next => simp [silent] at went

theorem collect_step (sources : List (Source P)) (r next : Run P) (dispatched : List Nat)
    (harvests : List (Nat × Harvest)) (failure : Option Failure)
    (phase : r.phase = .fetching dispatched harvests failure)
    (went : r.collect? dispatched harvests failure = some next) :
    Step sources r .advance [] next := by
  unfold collect? at went
  split at went
  next i rest mail =>
    split at went
    next harvest seat =>
      cases went
      exact .collect dispatched harvests failure i rest harvest phase mail seat
    next message seat =>
      cases went
      exact .spoil dispatched harvests failure i rest message phase mail seat
    next brought spoiled =>
      cases went
      refine .strayResult dispatched harvests failure i rest phase mail fun result seat => ?_
      cases result with
      | error message => exact spoiled message seat
      | ok harvest => exact brought harvest seat
  next mail =>
    by_cases quiet : r.seats.any Seat.isFetching = true
    next => simp [quiet] at went
    next =>
      have quiet : r.seats.any Seat.isFetching = false := by simpa using quiet
      simp only [quiet, Bool.false_eq_true, if_false, Option.some.injEq] at went
      subst went
      unfold conclude
      split
      next blamed blame => exact .fail dispatched harvests failure blamed phase mail quiet blame
      next clear =>
        obtain ⟨none, complete⟩ := Option.or_eq_none_iff.mp clear
        subst none
        exact .page dispatched harvests phase mail quiet complete

theorem advance_step (sources : List (Source P)) (r : Run P) (step : Run P × List (Event P))
    (went : r.advance? = some step) : Step sources r .advance step.2 step.1 := by
  unfold advance? at went
  split at went
  next phase =>
    obtain ⟨next, received, rfl⟩ := Option.map_eq_some_iff.mp went
    unfold receive? at received
    split at received
    next i rest mail =>
      cases received
      exact receive_step sources r i rest phase mail
    next mail =>
      by_cases silent : r.isSilent = true
      next =>
        rw [if_pos silent] at received
        cases received
        exact .desert phase mail silent
      next => simp [silent] at received
  next failure phase =>
    cases went
    exact .close failure phase
  next failure phase =>
    by_cases gone : r.launching = true
    next => simp [gone] at went
    next =>
      have gone : r.launching = false := by simpa using gone
      simp only [gone, Bool.false_eq_true, if_false, Option.some.injEq] at went
      subst went
      cases failure with
      | some failure => exact .letGo failure phase gone
      | none => exact .dispatch phase gone
  next failure phase =>
    obtain ⟨next, reaped, rfl⟩ := Option.map_eq_some_iff.mp went
    exact reap_step sources r next .advance _ reaped (.inl ⟨rfl, failure, phase⟩)
      fun mail silent => .drained failure phase mail silent
  next dispatched harvests failure phase =>
    obtain ⟨next, collected, rfl⟩ := Option.map_eq_some_iff.mp went
    exact collect_step sources r next dispatched harvests failure phase collected
  next failure phase =>
    by_cases calm : r.reaping = true
    next => simp [calm] at went
    next =>
      rw [if_neg calm] at went
      cases went
      exact .giveIn failure phase (by simpa using calm)
  next => cases went
  next => cases went

theorem launch_step (sources : List (Source P)) (r : Run P) (step : Run P × List (Event P))
    (went : r.launch? = some step) : Step sources r .launch step.2 step.1 := by
  unfold launch? at went
  by_cases launching : r.launching = true
  next =>
    rw [if_neg (by simp [launching])] at went
    by_cases holding : r.holding = true
    next =>
      rw [if_pos holding] at went
      cases went
      exact .spawn launching holding
    next =>
      have empty : r.holding = false := by simpa using holding
      rw [if_neg holding] at went
      by_cases spent : (r.closed || Decidable.decide (r.names.length <= r.launched)) = true
      next =>
        rw [if_pos spent] at went
        cases went
        exact .leave launching empty (by simpa using spent)
      next =>
        rw [if_neg spent] at went
        obtain ⟨unclosed, more⟩ : r.closed = false ∧ r.launched < r.names.length := by
          simpa using spent
        split at went
        next => cases went
        next permits free =>
          cases went
          exact .take permits launching empty unclosed more free
  next => simp [launching] at went

theorem endProbe_step (sources : List (Source P)) (r : Run P) (i : Nat) :
    Step sources r (.endProbe i) [] (r.endProbe i (probeAt sources i)) := by
  unfold endProbe
  by_cases probing : r.isProbing i = true
  next =>
    have seat : r.seat i = .probing := by
      unfold isProbing Seat.isProbing at probing
      split at probing <;> simp_all
    rw [if_pos probing]
    cases reports : (probeAt sources i).report? .probe with
    | none =>
      have lost : probeAt sources i = .lost := by
        cases ending : probeAt sources i <;> simp_all [Ending.report?]
      exact .loseProbe i seat lost
    | some report =>
      by_cases listening : r.listening = true
      next =>
        have step : Step sources r (.endProbe i) [] _ := .report i report seat reports listening
        simpa [put, listening] using step
      next =>
        have alive : probeAt sources i ≠ .lost := fun lost => by
          simp [lost, Ending.report?] at reports
        have step : Step sources r (.endProbe i) [] _ :=
          .missReport i seat alive (by simpa using listening)
        simpa [put, listening] using step
  next =>
    rw [if_neg probing]
    exact .idle _

theorem endFetch_step (sources : List (Source P)) (r : Run P) (i : Nat) (payload : P)
    (seat : r.seat i = .fetching payload) :
    Step sources r (.endFetch i) [] (r.endFetch i (fetchAt sources i payload)) := by
  have fetching : r.isFetching i = true := by simp [isFetching, seat, Seat.isFetching]
  unfold endFetch
  rw [if_pos fetching]
  cases brings : (fetchAt sources i payload).report? .fetch with
  | none =>
    refine .missResult i payload seat (.inl ?_)
    cases ending : fetchAt sources i payload <;> simp_all [Ending.report?]
  | some result =>
    cases phase : r.phase with
    | fetching dispatched harvests failure =>
      exact .bring dispatched harvests failure i payload result seat brings phase
    | _ => exact .missResult i payload seat (.inr (by rw [phase]; rfl))

theorem abort_step (sources : List (Source P)) (r : Run P) :
    Step sources r .abort [] r.abort := by
  unfold abort
  split
  next => exact .idle _
  next => exact .idle _
  next => exact .idle _
  next dispatched harvests failure phase =>
    exact .abandonFetches dispatched harvests failure phase
  next failure phase => exact .abandonFailure failure phase
  next done aborted decided fetching failing =>
    refine .abandon ?_
    cases phase : r.phase with
    | deciding => exact .inl rfl
    | decided failure => exact absurd phase (decided _)
    | closing failure => exact .inr (.inl ⟨failure, rfl⟩)
    | draining failure => exact .inr (.inr ⟨failure, rfl⟩)
    | fetching dispatched harvests failure => exact absurd phase (fetching _ _ _)
    | failing failure => exact absurd phase (failing _)
    | done outcome => exact absurd phase (done _)
    | aborted => exact absurd phase aborted

theorem move_step (sources : List (Source P)) (r : Run P) (m : Move) :
    Step sources r m (r.move sources m).2 (r.move sources m).1 := by
  cases m with
  | release i =>
    by_cases freed : (r.seat i).isFreed = true
    next =>
      have seat : r.seat i = .freed := by
        unfold Seat.isFreed at freed
        split at freed <;> simp_all
      have step : Step sources r (.release i) _ _ := .release i seat
      simpa [move, freed] using step
    next =>
      have step : Step sources r (.release i) _ _ := .idle _
      simpa [move, freed] using step
  | advance =>
    cases went : r.advance? with
    | none =>
      have step : Step sources r .advance _ _ := .idle _
      simpa [move, went] using step
    | some step => simpa [move, went] using advance_step sources r step went
  | reap =>
    cases went : r.reaper? with
    | none =>
      have step : Step sources r .reap _ _ := .idle _
      simpa [move, went] using step
    | some step =>
      have reaping : r.reaping = true := by
        by_contra calm
        simp [reaper?, calm] at went
      rw [reaper?, if_pos reaping] at went
      obtain ⟨next, reaped, rfl⟩ := Option.map_eq_some_iff.mp went
      have taken := reap_step sources r next .reap _ reaped (.inr ⟨rfl, reaping⟩)
        fun mail silent => .reaped reaping mail silent
      simpa [move, reaper?, reaping, quiet, reaped] using taken
  | launch =>
    cases went : r.launch? with
    | none =>
      have step : Step sources r .launch _ _ := .idle _
      simpa [move, went] using step
    | some step => simpa [move, went] using launch_step sources r step went
  | call i =>
    by_cases spawned : (r.seat i).isSpawned = true
    next =>
      have seat : r.seat i = .spawned := by
        unfold Seat.isSpawned at spawned
        split at spawned <;> simp_all
      have step : Step sources r (.call i) _ _ := .call i seat
      simpa [move, spawned] using step
    next =>
      have step : Step sources r (.call i) _ _ := .idle _
      simpa [move, spawned] using step
  | endProbe i => exact endProbe_step sources r i
  | endFetch i =>
    simp only [move]
    split
    next payload seat => exact endFetch_step sources r i payload seat
    next => exact .idle _
  | abort => exact abort_step sources r

end Run

end FleetSearch.Search
