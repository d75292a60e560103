import FleetSearch.Proofs.Search.Course
import FleetSearch.Proofs.Search.Cutoff

set_option autoImplicit false

namespace FleetSearch.Search

variable {P : Type}

def Phase.isEarly : Phase -> Bool
  | .deciding => true
  | .decided none => true
  | .closing none => true
  | _ => false

theorem Phase.isEarly_closing {phase : Phase} (closing : phase = .closing none) :
    phase.isEarly = true := by
  rw [closing]
  rfl

structure Decided (sources : List (Source P)) (size limit : Nat) (seats : List (Seat P))
    (c : Cutoff) (phase : Phase) : Prop where
  limit : c.limit = limit
  length : c.answers.length = size
  walked : c.Walked
  told : ∀ (i : Nat) (answer : Bool), c.answers[i]? = some (some answer) ->
    ∃ payload, probeAt sources i = .done { found := answer, payload }
  opened : ∀ i, (seatAt seats i).isOpen = true -> c.isAnswered i = false
  unsettled : phase = .deciding -> c.settled = false
  answered : phase = .deciding -> ∀ i, (seatAt seats i).isOpen = false -> c.isAnswered i = true
  kept : phase.isEarly = true ->
    ∀ i, (seatAt seats i).isHeld = true ↔ c.answers[i]? = some (some true)
  settled : phase = .decided none ∨ phase = .closing none ∨ Run.isFetchPhase phase = true ->
    c.settled = true

namespace Decided

variable {sources : List (Source P)} {size limit i : Nat} {seats after : List (Seat P)} {c : Cutoff}
  {phase next : Phase} {s t : Seat P}

theorem set (old : Decided sources size limit seats c phase) (seat : seatAt seats i = t)
    (opens : s.isOpen = t.isOpen) (holds : s.isHeld = t.isHeld) :
    Decided sources size limit (seats.set i s) c phase := by
  have same : ∀ j, (seatAt (seats.set i s) j).isOpen = (seatAt seats j).isOpen ∧
      (seatAt (seats.set i s) j).isHeld = (seatAt seats j).isHeld := fun j => by
    rcases seatAt_set_or seats i s j with same | ⟨here, put⟩
    · simp [same]
    · subst here
      simp [put, seat, opens, holds]
  exact
    { old with
      opened := fun j opened => old.opened j (by rwa [(same j).1] at opened)
      answered := fun deciding j closed => old.answered deciding j (by rwa [(same j).1] at closed)
      kept := fun early j => by
        rw [(same j).2]
        exact old.kept early j }

theorem pass (old : Decided sources size limit seats c phase) (late : next.isEarly = false)
    (decided : Run.isFetchPhase next = true -> c.settled = true)
    (back : ∀ j, (seatAt after j).isOpen = true -> (seatAt seats j).isOpen = true) :
    Decided sources size limit after c next where
  limit := old.limit
  length := old.length
  walked := old.walked
  told := old.told
  opened := fun j opened => old.opened j (back j opened)
  unsettled := fun deciding => by simp [deciding, Phase.isEarly] at late
  answered := fun deciding => by simp [deciding, Phase.isEarly] at late
  kept := fun early => by simp [early] at late
  settled := fun which => by
    rcases which with decided | closing | fetching
    · simp [decided, Phase.isEarly] at late
    · simp [closing, Phase.isEarly] at late
    · exact decided fetching

theorem record (old : Decided sources size limit seats c .deciding) {finding : Finding P}
    (length : seats.length = size) (seat : seatAt seats i = .reported (.ok finding))
    (done : probeAt sources i = .done finding) (early : next.isEarly = true)
    (unsettled : next = .deciding -> (c.record i finding.found).settled = false)
    (settled : next = .decided none ∨ next = .closing none ->
      (c.record i finding.found).settled = true) :
    Decided sources size limit (seats.set i finding.seat) (c.record i finding.found) next := by
  have within : i < seats.length := lt_length_of_seatAt (by simp [seat])
  have inside : i < c.answers.length := by rw [old.length, ← length]; exact within
  have fresh : c.isAnswered i = false := old.opened i (by simp [seat, Seat.isOpen])
  have behind : c.firstOpen ≤ i := by
    by_contra before
    have answered := old.walked.answered (Nat.lt_of_not_le before)
    simp [fresh] at answered
  have answers : ∀ j, (c.record i finding.found).answers[j]? =
      if i = j then some (some finding.found) else c.answers[j]? := fun j => by
    by_cases same : i = j
    next =>
      subst same
      simp [Cutoff.record, Cutoff.advance, inside]
    next => simp [Cutoff.record, Cutoff.advance, same]
  have filled : finding.seat.isOpen = false := by
    unfold Finding.seat
    split <;> rfl
  have kind : finding.seat.isHeld = finding.found := by
    unfold Finding.seat
    cases finding.found <;> rfl
  refine ⟨old.limit, ?_, Cutoff.record_walked c i _ old.walked behind, ?_, ?_, unsettled,
    ?_, ?_, ?_⟩
  · simpa [Cutoff.record, Cutoff.advance] using old.length
  · intro j answer known
    rw [answers] at known
    split at known
    next same =>
      obtain rfl : finding.found = answer := by simpa using known
      exact ⟨finding.payload, same ▸ done⟩
    next => exact old.told j answer known
  · intro j opened
    rw [Cutoff.isAnswered_record c i _ inside]
    rw [seatAt_set within] at opened
    split at opened
    next => simp [filled] at opened
    next other => simpa [other] using old.opened j opened
  · intro _ j closed
    rw [Cutoff.isAnswered_record c i _ inside]
    rw [seatAt_set within] at closed
    split at closed
    next same => simp [same]
    next => simp [old.answered rfl j closed]
  · intro _ j
    rw [answers, seatAt_set within]
    split
    next => simp [kind]
    next => exact old.kept rfl j
  · intro which
    rcases which with decided | closing | fetching
    · exact settled (.inl decided)
    · exact settled (.inr closing)
    · cases next <;> simp_all [Phase.isEarly, Run.isFetchPhase]

theorem shut (old : Decided sources size limit seats c phase) (decided : phase = .decided none) :
    Decided sources size limit seats c (.closing none) where
  limit := old.limit
  length := old.length
  walked := old.walked
  told := old.told
  opened := old.opened
  unsettled := by rintro ⟨⟩
  answered := by rintro ⟨⟩
  kept := fun _ => old.kept (by rw [decided]; rfl)
  settled := fun _ => old.settled (.inl decided)

theorem hit (old : Decided sources size limit seats c phase) {payload : P} (below : i < c.firstOpen)
    (done : probeAt sources i = .done { found := true, payload }) : i ∈ c.hits := by
  obtain ⟨answer, known⟩ := (Cutoff.isAnswered_iff c i).mp (old.walked.answered below)
  obtain ⟨other, told⟩ := old.told i answer known
  obtain rfl : answer = true := by
    have same := told.symm.trans done
    simp only [Ending.done.injEq, Finding.mk.injEq] at same
    exact same.1
  rw [Cutoff.hits, List.mem_filter, List.mem_range]
  exact ⟨below, by simp [known]⟩

-- A search that nobody answers any more waits for a probe worker that died: it is the first one,
-- and all repositories before it have been answered.
theorem deserted (old : Decided sources size limit seats c .deciding)
    (sound : ∀ j, (seatAt seats j).Sound sources j)
    (none : ∀ j, (seatAt seats j).isOpen = true -> j < size -> seatAt seats j = .lost) :
    c.firstOpen < size ∧ seatAt seats c.firstOpen = .lost ∧
      probeAt sources c.firstOpen = .lost ∧
      ∀ j < c.firstOpen, ∃ finding, probeAt sources j = .done finding := by
  obtain ⟨inside, unanswered⟩ := old.walked.stops (old.unsettled rfl)
  rw [old.length] at inside
  have opened : (seatAt seats c.firstOpen).isOpen = true := by
    by_contra closed
    have answered := old.answered rfl c.firstOpen (by simpa using closed)
    simp [unanswered] at answered
  have lost := none c.firstOpen opened inside
  refine ⟨inside, lost, ?_, fun j before => ?_⟩
  · have truth := sound c.firstOpen
    rwa [lost] at truth
  · obtain ⟨answer, known⟩ := (Cutoff.isAnswered_iff c j).mp (old.walked.answered before)
    obtain ⟨payload, done⟩ := old.told j answer known
    exact ⟨_, done⟩

end Decided

namespace Run

theorem filter_held_eq_hits {sources : List (Source P)} {size : Nat} {r : Run P}
    (decided : Decided sources size r.request.limit r.seats r.cutoff r.phase)
    (early : r.phase.isEarly = true) :
    ((List.range r.cutoff.firstOpen).filter fun i => (r.seat i).isHeld) = r.cutoff.hits := by
  apply List.filter_congr
  intro i _
  have kept := decided.kept early i
  rw [Bool.eq_iff_iff]
  simpa [seat, seatAt] using kept

theorem chosen_eq_hits {sources : List (Source P)} {size : Nat} {r : Run P}
    (decided : Decided sources size r.request.limit r.seats r.cutoff r.phase)
    (early : r.phase.isEarly = true) : r.chosen = r.cutoff.hits := by
  rw [chosen, filter_held_eq_hits decided early]
  apply List.take_of_length_le
  rw [decided.walked.length_hits, ← decided.limit]
  exact decided.walked.found_le

theorem mem_chosen {sources : List (Source P)} {size : Nat} {r : Run P}
    (decided : Decided sources size r.request.limit r.seats r.cutoff r.phase)
    (early : r.phase.isEarly = true) (i : Nat) :
    i ∈ r.chosen ↔ i < r.cutoff.firstOpen ∧ (seatAt r.seats i).isHeld = true := by
  rw [chosen_eq_hits decided early, Cutoff.hits, List.mem_filter, List.mem_range,
    decided.kept early i]
  simp

namespace Step

variable {sources : List (Source P)} {width : Nat} {r next : Run P} {m : Move}
  {events : List (Event P)}

theorem decided (step : Step sources r m events next) (held : r.Controlled width)
    (sound : ∀ i, (seatAt r.seats i).Sound sources i)
    (old : Decided sources r.names.length r.request.limit r.seats r.cutoff r.phase) :
    Decided sources next.names.length next.request.limit next.seats next.cutoff next.phase := by
  have back : ∀ j, (seatAt next.seats j).isOpen = true -> (seatAt r.seats j).isOpen = true :=
    fun j => (step.goes held j).isOpen
  have late : r.listening = false ∨ r.reaping = true -> r.phase.isEarly = false := fun which => by
    have flags := held.flagged.phase
    cases phase : r.phase <;> simp_all [Phase.isEarly]
  cases step with
  | idle | take | leave | strayReport | reaped => exact old
  | release i seat => exact old.set seat rfl rfl
  | spawn launching holding =>
    have seat := (held.launched.waiting r.launched).mpr (Nat.le_refl _)
    exact old.set seat rfl rfl
  | call i seat => exact old.set seat rfl rfl
  | refuse i rest message phase mail seat => exact old.pass rfl (by simp [isFetchPhase]) back
  | settle i rest finding phase mail seat settled =>
    have truth := Seat.sound_at sound seat
    rw [phase] at old
    exact old.record held.launched.length seat (report_of_done truth) rfl (by simp) fun _ => settled
  | record i rest finding phase mail seat unsettled =>
    have truth := Seat.sound_at sound seat
    rw [phase] at old
    have recorded : Decided sources _ _ _ _ Phase.deciding :=
      old.record held.launched.length seat (report_of_done truth) rfl (fun _ => unsettled) (by simp)
    exact phase ▸ recorded
  | close failure phase =>
    cases failure with
    | none => exact old.shut phase
    | some failure => exact old.pass rfl (by simp [isFetchPhase]) back
  | desert phase mail silent => exact old.pass rfl (by simp [isFetchPhase]) back
  | letGo failure phase gone => exact old.pass rfl (by simp [isFetchPhase]) back
  | dispatch phase gone => exact old.pass rfl (fun _ => old.settled (.inr (.inl phase))) back
  | reap m i rest mail calm =>
    have after : r.phase.isEarly = false := by
      rcases calm with ⟨_, failure, draining⟩ | ⟨_, reaping⟩
      · rw [draining]
        rfl
      · exact late (.inr reaping)
    exact old.pass after (fun fetching => old.settled (.inr (.inr fetching))) back
  | drained failure phase mail silent => exact old.pass rfl (by simp [isFetchPhase]) back
  | collect dispatched harvests failure i rest harvest phase mail seat =>
    exact old.pass rfl (fun _ => old.settled (.inr (.inr (by rw [phase]; rfl)))) back
  | spoil dispatched harvests failure i rest message phase mail seat =>
    exact old.pass rfl (fun _ => old.settled (.inr (.inr (by rw [phase]; rfl)))) back
  | strayResult dispatched harvests failure i rest phase mail stray =>
    have after : r.phase.isEarly = false := by
      rw [phase]
      rfl
    exact old.pass after (fun fetching => old.settled (.inr (.inr fetching))) back
  | fail dispatched harvests failure blamed phase mail quiet blame =>
    exact old.pass rfl (by simp [isFetchPhase]) back
  | page dispatched harvests phase mail quiet complete =>
    exact old.pass rfl (by simp [isFetchPhase]) back
  | giveIn failure phase calm => exact old.pass rfl (by simp [isFetchPhase]) back
  | loseProbe i seat lost => exact old.set seat rfl rfl
  | report i report seat reports listening => exact old.set seat rfl rfl
  | missReport i seat reports deaf =>
    exact old.pass (late (.inl deaf)) (fun fetching => old.settled (.inr (.inr fetching))) back
  | bring dispatched harvests failure i payload result seat brings phase =>
    exact old.set seat rfl rfl
  | missResult i payload seat deaf => exact old.set seat rfl rfl
  | abandon early => exact old.pass rfl (by simp [isFetchPhase]) back
  | abandonFetches dispatched harvests failure phase =>
    exact old.pass rfl (by simp [isFetchPhase]) back
  | abandonFailure failure phase => exact old.pass rfl (by simp [isFetchPhase]) back

end Step

end Run

end FleetSearch.Search
