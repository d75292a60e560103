import FleetSearch.Proofs.Search.Release

set_option autoImplicit false

namespace FleetSearch.Search

variable {P : Type}

theorem Seat.Goes.vacant {sources : List (Source P)} {i : Nat} {m : Move} {s next : Seat P}
    (goes : Goes sources i m s next) (idle : s.isBusy = false) (other : m ≠ .launch) : next = s := by
  cases goes <;> simp_all [Seat.isBusy]

namespace Run

structure Vacant (r : Run P) : Prop where
  launching : r.launching = false
  seats : ∀ i, (seatAt r.seats i).isBusy = false

theorem Vacant.quiet {r : Run P} (vacant : r.Vacant) (i : Nat) :
    r.isProbing i = false ∧ r.isFetching i = false := by
  have idle := vacant.seats i
  rw [isProbing, isFetching, show r.seat i = seatAt r.seats i from rfl]
  cases seat : seatAt r.seats i <;> simp_all [Seat.isBusy, Seat.isProbing, Seat.isFetching]

theorem vacant_of_tasks {r : Run P} (none : r.tasks = 0) : r.Vacant := by
  unfold tasks at none
  refine ⟨?_, (any_eq_false_iff Seat.isBusy rfl r.seats).mp ?_⟩
  · by_contra launching
    simp [launching] at none
  · have left : r.seats.countP Seat.isBusy = 0 := by omega
    rw [List.countP_eq_zero] at left
    simpa using left

theorem Step.vacant {sources : List (Source P)} {width : Nat} {r next : Run P} {m : Move}
    {events : List (Event P)} (step : Step sources r m events next)
    (lawful : r.Lawful sources width) (vacant : r.Vacant) : events = [] ∧ next.Vacant := by
  by_cases launch : m = .launch
  next =>
    subst launch
    have gone := vacant.launching
    cases step with
    | idle => exact ⟨rfl, vacant⟩
    | take permits launching => simp [gone] at launching
    | spawn launching => simp [gone] at launching
    | leave launching => simp [gone] at launching
    | reap _ i rest mail calm => rcases calm with ⟨same, _⟩ | ⟨same, _⟩ <;> cases same
  next =>
    have stays : ∀ i, seatAt next.seats i = seatAt r.seats i := fun i =>
      (step.goes lawful.controlled i).vacant (vacant.seats i) launch
    refine ⟨List.eq_nil_iff_forall_not_mem.mpr fun e member => ?_, ?_, fun i => ?_⟩
    · have silent := step.tells lawful e.index
      rw [stays, tells_self] at silent
      have own : e ∈ about e.index events := by simp [about, member]
      simp [silent] at own
    · cases step with
      | leave => rfl
      | _ => exact vacant.launching
    · rw [stays]
      exact vacant.seats i

theorem Rests.tasks {sources : List (Source P)} {width : Nat} {r : Run P} (rests : r.Rests)
    (lawful : r.Lawful sources width) (room : 0 < r.names.length -> 0 < width) : r.tasks = 0 := by
  obtain ⟨gone, calm, _⟩ := rests.finished lawful room
  have idle : r.seats.any Seat.isBusy = false := by
    refine (any_eq_false_iff Seat.isBusy rfl r.seats).mpr fun i => ?_
    rcases rests.seat lawful room i with seat | seat | seat <;> rw [seat] <;> rfl
  have busy : r.seats.countP Seat.isBusy = 0 := List.countP_eq_zero.mpr (by simpa using idle)
  have fetching : r.seats.countP Seat.isFetching = 0 :=
    List.countP_eq_zero.mpr (by simpa using rests.fetches)
  simp [Run.tasks, gone, calm, busy, fetching]

end Run

namespace Runs

theorem tasks_eq_zero_iff (s : Runs P) : s.tasks = 0 ↔ ∀ r ∈ s.runs, r.tasks = 0 := by
  rw [tasks, ← List.sum_eq_foldr, List.sum_eq_zero_iff_forall_eq_nat]
  simp

structure Barred (sources : Nat -> List (Source P)) (s : Runs P) : Prop where
  lawful : ∀ (k : Nat) (r : Run P), s.runs[k]? = some r ->
    ∃ width, r.Lawful ((sources k).drop r.offset) width
  closing : s.closing = true
  heard : s.tasks = 0 -> s.isShut = true
  vacant : s.isShut = true -> ∀ (k : Nat) (r : Run P), s.runs[k]? = some r -> r.Vacant

theorem vacant_of_tasks {s : Runs P} (none : s.tasks = 0) (k : Nat) (r : Run P)
    (there : s.runs[k]? = some r) : r.Vacant :=
  Run.vacant_of_tasks ((tasks_eq_zero_iff s).mp none r (List.mem_of_getElem? there))

namespace Barred

variable {sources : Nat -> List (Source P)} {s : Runs P}

theorem go (barred : s.Barred sources) (k : Nat) (m : Move) :
    (s.go sources k m).1.Barred sources ∧
      (s.isShut = true -> (s.go sources k m).1.isShut = true ∧ (s.go sources k m).2 = []) := by
  cases there : s.runs[k]? with
  | none =>
    rw [go_none sources s k m there]
    exact ⟨barred, fun shut => ⟨shut, rfl⟩⟩
  | some r =>
    rw [go_some sources s k m r there]
    have step := Run.move_step ((sources k).drop r.offset) r m
    generalize r.move ((sources k).drop r.offset) m = next at step
    obtain ⟨width, lawful⟩ := barred.lawful k r there
    obtain ⟨inside, _⟩ := List.getElem?_eq_some_iff.mp there
    have after : ∀ j other, (s.replace k next.1 next.2).1.runs[j]? = some other ->
        j = k ∧ other = next.1 ∨ s.runs[j]? = some other := by
      intro j other here
      rw [replace_runs] at here
      by_cases own : k = j
      next =>
        subst own
        rw [List.getElem?_set_self inside] at here
        exact .inl ⟨rfl, (Option.some.inj here).symm⟩
      next =>
        rw [List.getElem?_set_ne own] at here
        exact .inr here
    have shuts : (s.replace k next.1 next.2).1.isShut =
        (s.isShut || (s.replace k next.1 next.2).1.tasks == 0) := by
      simp [replace, barred.closing, tasks]
    refine ⟨⟨fun j other here => ?_, barred.closing, fun none => ?_, fun shut j other here => ?_⟩,
      fun shut => ⟨?_, ?_⟩⟩
    · rcases after j other here with ⟨rfl, rfl⟩ | old
      · rw [step.given.2.2.1]
        exact ⟨width, step.lawful lawful⟩
      · exact barred.lawful j other old
    · simp [shuts, none]
    · rw [shuts, Bool.or_eq_true, beq_iff_eq] at shut
      rcases shut with before | none
      · rcases after j other here with ⟨rfl, rfl⟩ | old
        · exact (step.vacant lawful (barred.vacant before j r there)).2
        · exact barred.vacant before j other old
      · exact vacant_of_tasks none j other here
    · simp [shuts, shut]
    · simp [replace, (step.vacant lawful (barred.vacant shut k r there)).1]

theorem turn (barred : s.Barred sources) (t : Turn) (late : t.request? = none) :
    (s.turn sources t).1.Barred sources ∧
      (s.isShut = true -> (s.turn sources t).1.isShut = true ∧ (s.turn sources t).2 = []) := by
  cases t with
  | begin request => cases late
  | move k m => exact barred.go k m
  | shutdown =>
    refine ⟨⟨barred.lawful, rfl, fun none => ?_, fun shut k r there => ?_⟩, fun shut => ⟨?_, rfl⟩⟩
    · have none : s.tasks = 0 := none
      simp [Runs.turn, shutdown, none]
    · simp only [Runs.turn, shutdown, Bool.or_eq_true, beq_iff_eq] at shut
      rcases shut with before | none
      · exact barred.vacant before k r there
      · exact vacant_of_tasks none k r there
    · simp [Runs.turn, shutdown, shut]

theorem play (barred : s.Barred sources) (turns : List Turn)
    (late : ∀ t ∈ turns, t.request? = none) :
    (s.play sources turns).1.Barred sources ∧
      (s.isShut = true -> (s.play sources turns).1.isShut = true ∧
        (s.play sources turns).2 = []) := by
  induction turns generalizing s with
  | nil => exact ⟨barred, fun shut => ⟨shut, rfl⟩⟩
  | cons t rest ih =>
    obtain ⟨next, first⟩ := barred.turn t (late t List.mem_cons_self)
    obtain ⟨last, others⟩ := ih next fun other member => late other (List.mem_cons_of_mem _ member)
    refine ⟨last, fun shut => ?_⟩
    obtain ⟨shut, none⟩ := first shut
    obtain ⟨still, silent⟩ := others shut
    exact ⟨still, by simp [Runs.play, none, silent]⟩

end Barred

theorem turn_open (sources : Nat -> List (Source P)) (s : Runs P) (t : Turn) (early : t ≠ .shutdown)
    (unheard : s.closing = false ∧ s.isShut = false) :
    (s.turn sources t).1.closing = false ∧ (s.turn sources t).1.isShut = false := by
  cases t with
  | begin request => exact unheard
  | shutdown => exact absurd rfl early
  | move k m =>
    rw [turn]
    cases there : s.runs[k]? with
    | none =>
      rw [go_none sources s k m there]
      exact unheard
    | some r =>
      rw [go_some sources s k m r there]
      simp [replace, unheard]

theorem play_open (sources : Nat -> List (Source P)) (s : Runs P) (turns : List Turn)
    (early : .shutdown ∉ turns) (unheard : s.closing = false ∧ s.isShut = false) :
    (s.play sources turns).1.closing = false ∧ (s.play sources turns).1.isShut = false := by
  induction turns generalizing s with
  | nil => exact unheard
  | cons t rest ih =>
    obtain ⟨first, others⟩ := not_or.mp (mt List.mem_cons.mpr early)
    exact ih _ others (turn_open sources s t (Ne.symm first) unheard)

theorem shutdown_barred (sources : Nat -> List (Source P)) (maxProbes nextLimit : Nat)
    (before : List Turn) (first : .shutdown ∉ before) :
    ((idle maxProbes nextLimit).play sources (before ++ [.shutdown])).1.Barred sources := by
  obtain ⟨_, unheard⟩ := play_open sources (idle maxProbes nextLimit) before first ⟨rfl, rfl⟩
  rw [play_append]
  refine ⟨fun k r there => ?_, rfl, fun none => ?_, fun shut k r there => ?_⟩
  · exact ⟨_, (Runs.reached sources maxProbes nextLimit before k r there).2.lawful⟩
  · have none : ((idle maxProbes nextLimit).play sources before).1.tasks = 0 := none
    simp [play, turn, shutdown, none]
  · simp only [play, turn, shutdown, unheard, Bool.false_or, beq_iff_eq] at shut
    exact vacant_of_tasks shut k r there

/-- Once somebody who waited for the end of all runs has heard of it, no call executes, each probe
whose worker lived has been released once, and whatever the runs still do, no repository hears of
it. The end is heard of as soon as no task is left, which is so at the latest when all runs rest. -/
theorem shutdown_is_barrier (sources : Nat -> List (Source P)) (maxProbes nextLimit : Nat)
    (before after : List Turn) (first : .shutdown ∉ before)
    (alone : ∀ t ∈ after, t.request? = none) :
    let played := (idle maxProbes nextLimit).play sources (before ++ .shutdown :: after)
    (played.1.isShut = true ->
        (∀ k r, played.1.runs[k]? = some r ->
          (∀ i, r.isProbing i = false ∧ r.isFetching i = false) ∧
            ∀ g, 0 < probes k g played.2 ->
              (probeAt (sources k) g ≠ .lost -> releases k g played.2 = 1) ∧
                (probeAt (sources k) g = .lost -> releases k g played.2 = 0)) ∧
          ∀ later : List Turn, (∀ t ∈ later, t.request? = none) ->
            let last := (idle maxProbes nextLimit).play sources (before ++ .shutdown :: after ++ later)
            last.1.isShut = true ∧ last.2 = played.2) ∧
      (played.1.tasks = 0 -> played.1.isShut = true) ∧
      ((∀ r ∈ played.1.runs, r.Rests) -> played.1.isShut = true) := by
  intro played
  have barred : played.1.Barred sources := by
    have begun := shutdown_barred sources maxProbes nextLimit before first
    have ends := (begun.play after alone).1
    have same : before ++ .shutdown :: after = (before ++ [.shutdown]) ++ after := by simp
    simp only [played, same]
    rw [play_append]
    exact ends
  refine ⟨fun shut => ⟨fun k r there => ⟨(barred.vacant shut k r there).quiet, fun g probed => ?_⟩,
    fun later alone => ?_⟩, barred.heard, fun rest => ?_⟩
  · obtain ⟨_, reached⟩ := Runs.reached sources maxProbes nextLimit _ k r there
    have idle := (barred.vacant shut k r there).seats (g - r.offset)
    have truth := reached.lawful.sound (g - r.offset)
    have counted : probes k g played.2 = _ := reached.probes g
    have released : releases k g played.2 = _ := reached.releases g
    rw [counted] at probed
    obtain ⟨inside, taken⟩ :
        r.offset ≤ g ∧ (seatAt r.seats (g - r.offset)).isCalled = true := by
      by_contra absent
      simp [absent] at probed
    have place : r.offset + (g - r.offset) = g := by omega
    rw [released, ← place, ← probeAt_drop]
    cases seat : seatAt r.seats (g - r.offset) <;>
      simp_all [Seat.isBusy, Seat.isCalled, Seat.isReleased, Seat.Sound]
  · intro last
    obtain ⟨still, silent⟩ := (barred.play later alone).2 shut
    have whole : last = ((played.1.play sources later).1, played.2 ++ (played.1.play sources later).2) :=
      play_append sources _ (before ++ .shutdown :: after) later
    rw [whole]
    exact ⟨still, by rw [silent, List.append_nil]⟩
  · refine barred.heard ((tasks_eq_zero_iff _).mpr fun r member => ?_)
    obtain ⟨k, there⟩ := List.mem_iff_getElem?.mp member
    obtain ⟨_, reached⟩ := Runs.reached sources maxProbes nextLimit _ k r there
    exact (rest r member).tasks reached.lawful reached.room

-- The first of two runs fails while two of its probes execute, and the second one has started a
-- probe.
def bothBusy : List Turn :=
  .begin { query := "q", limit := 2 } :: .begin { query := "q", limit := 1 } ::
    (List.map (Turn.move 0) (Move.opening 3 ++ [.endProbe 2, .advance]) ++
      List.map (Turn.move 1) (Move.opening 1))

-- The first run ends with its failure. The second one is given up, but its launcher goes on.
def bothLeave : List Turn :=
  List.map (Turn.move 0) [.advance, .launch, .advance, .endProbe 1, .endProbe 0, .advance, .advance,
      .advance, .release 0, .release 1, .release 2] ++
    List.map (Turn.move 1) [.abort, .launch, .launch, .call 1, .launch, .launch, .call 2,
      .endProbe 0, .endProbe 1, .endProbe 2, .launch, .release 0, .release 1, .release 2]

theorem bothLeave_shut :
    let played := (idle 3 9).play (fun _ => oneOfThree) (bothBusy ++ .shutdown :: bothLeave)
    played.1.isShut = true ∧ releases 0 2 played.2 = 1 ∧ releases 1 2 played.2 = 1 ∧
      ((idle 3 9).play (fun _ => oneOfThree) (bothBusy ++ .shutdown :: bothLeave ++
        [.move 0 .advance, .move 1 .advance])).2 = played.2 := by
  intro played
  have barrier := shutdown_is_barrier (fun _ => oneOfThree) 3 9 bothBusy bothLeave (by decide)
    (by decide)
  have shut : played.1.isShut = true := barrier.2.1 (by decide +kernel)
  obtain ⟨ended, later⟩ := barrier.1 shut
  have last := later [.move 0 .advance, .move 1 .advance] (by decide)
  have begun : played.1.runs.length = 2 := by decide +kernel
  have probed : 0 < probes 0 2 played.2 ∧ 0 < probes 1 2 played.2 := by decide +kernel
  have lived : probeAt oneOfThree 2 ≠ .lost := by decide
  have first : 0 < played.1.runs.length := by omega
  have second : 1 < played.1.runs.length := by omega
  have failed := (ended 0 _ (List.getElem?_eq_getElem first)).2 2 probed.1
  have aborted := (ended 1 _ (List.getElem?_eq_getElem second)).2 2 probed.2
  exact ⟨shut, failed.1 lived, aborted.1 lived, last.2⟩

end Runs

end FleetSearch.Search
