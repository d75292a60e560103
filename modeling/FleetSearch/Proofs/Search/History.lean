import FleetSearch.Proofs.Search.Outcome

set_option autoImplicit false

namespace FleetSearch.Search

variable {P : Type}

def Event.index : Event P -> Nat
  | .probe i => i
  | .fetch i _ => i
  | .release i => i

def about (i : Nat) (events : List (Event P)) : List (Event P) :=
  events.filter fun e => e.index = i

theorem about_append (i : Nat) (events more : List (Event P)) :
    about i (events ++ more) = about i events ++ about i more :=
  List.filter_append ..

theorem tells_self (i : Nat) (s : Seat P) : s.tells i s = [] := by
  cases s <;> rfl

theorem tells_set {seats : List (Seat P)} {i : Nat} {s t : Seat P} (seat : seatAt seats i = t)
    (silent : t.tells i s = []) (j : Nat) :
    (seatAt seats j).tells j (seatAt (seats.set i s) j) = [] := by
  rcases seatAt_set_or seats i s j with same | ⟨here, put⟩
  · rw [same, tells_self]
  · subst here
    rw [put, seat, silent]

theorem tells_event {seats : List (Seat P)} {i : Nat} {s t : Seat P} {event : Event P}
    (inside : i < seats.length) (seat : seatAt seats i = t) (own : event.index = i)
    (told : t.tells i s = [event]) (j : Nat) :
    about j [event] = (seatAt seats j).tells j (seatAt (seats.set i s) j) := by
  by_cases here : i = j
  next =>
    subst here
    rw [seatAt_set_self inside, seat, told]
    simp [about, own]
  next =>
    rw [seatAt_set_ne here, tells_self]
    simp [about, own, here]

namespace Run

theorem about_fetchEvents (r : Run P) (chosen : List Nat) (once : chosen.Nodup) (j : Nat) :
    about j (chosen.flatMap r.fetchEvent) = if j ∈ chosen then r.fetchEvent j else [] := by
  have own : ∀ i, about j (r.fetchEvent i) = if i = j then r.fetchEvent i else [] := fun i => by
    unfold fetchEvent
    split
    next =>
      by_cases here : i = j <;> simp [about, Event.index, here]
    next => simp [about]
  induction chosen with
  | nil => simp [about]
  | cons i rest ih =>
    obtain ⟨absent, once⟩ := List.nodup_cons.mp once
    rw [List.flatMap_cons, about_append, own, ih once]
    by_cases here : i = j
    next =>
      subst here
      simp [absent]
    next =>
      have other : j ≠ i := Ne.symm here
      simp [here, other]

namespace Step

variable {sources : List (Source P)} {width : Nat} {r next : Run P} {m : Move}
  {events : List (Event P)}

theorem tells (step : Step sources r m events next) (lawful : r.Lawful sources width) (j : Nat) :
    about j events = (seatAt r.seats j).tells j (seatAt next.seats j) := by
  have mailed := lawful.controlled.mailed
  cases step with
  | idle | take | leave | strayReport | desert | close | drained | reaped | fail | page | giveIn
    | abandonFailure => exact (tells_self j _).symm
  | release i seat =>
    have seat : seatAt r.seats i = .freed := seat
    exact tells_event (lt_length_of_seatAt (by simp [seat])) seat rfl rfl j
  | spawn launching holding =>
    exact (tells_set ((lawful.controlled.launched.waiting r.launched).mpr (Nat.le_refl _)) rfl j).symm
  | call i seat =>
    have seat : seatAt r.seats i = .spawned := seat
    exact tells_event (lt_length_of_seatAt (by simp [seat])) seat rfl rfl j
  | refuse i rest message phase mail seat => exact (tells_set seat rfl j).symm
  | settle i rest finding phase mail seat settled =>
    have silent : (Seat.reported (.ok finding)).tells i finding.seat = [] := by
      unfold Finding.seat
      split <;> rfl
    exact (tells_set seat silent j).symm
  | record i rest finding phase mail seat unsettled =>
    have silent : (Seat.reported (.ok finding)).tells i finding.seat = [] := by
      unfold Finding.seat
      split <;> rfl
    exact (tells_set seat silent j).symm
  | letGo failure phase gone =>
    rw [seatAt_map _ rfl]
    cases seatAt r.seats j <;> rfl
  | dispatch phase gone =>
    have early := Phase.isEarly_closing phase
    have once : r.chosen.Nodup := by
      rw [chosen_eq_hits lawful.decided early]
      exact List.nodup_range.filter _
    rw [about_fetchEvents r _ once, seatAt_dispatchSeats, fetchEvent]
    simp only [mem_chosen lawful.decided early, show r.seat j = seatAt r.seats j from rfl]
    by_cases below : j < r.cutoff.firstOpen
    next => cases seatAt r.seats j <;> simp [below, Seat.isHeld, Seat.fetch, Seat.tells]
    next => cases seatAt r.seats j <;> simp [below, Seat.freeHeld, Seat.tells]
  | reap m i rest mail calm =>
    obtain ⟨report, seat⟩ := (mail ▸ mailed).reported
    exact (tells_set seat rfl j).symm
  | collect dispatched harvests failure i rest harvest phase mail seat =>
    exact (tells_set seat rfl j).symm
  | spoil dispatched harvests failure i rest message phase mail seat =>
    exact (tells_set seat rfl j).symm
  | strayResult dispatched harvests failure i rest phase mail stray =>
    obtain ⟨result, seat⟩ := (mail ▸ mailed).fetched
    exact (tells_set seat rfl j).symm
  | loseProbe i seat lost => exact (tells_set seat rfl j).symm
  | report i report seat reports listening => exact (tells_set seat rfl j).symm
  | missReport i seat reports deaf => exact (tells_set seat rfl j).symm
  | bring dispatched harvests failure i payload result seat brings phase =>
    exact (tells_set seat rfl j).symm
  | missResult i payload seat deaf => exact (tells_set seat rfl j).symm
  | abandon early =>
    rw [seatAt_map _ rfl]
    cases seatAt r.seats j <;> rfl
  | abandonFetches dispatched harvests failure phase =>
    rw [seatAt_map _ rfl]
    cases seatAt r.seats j <;> rfl

end Step

theorem play_told {sources : List (Source P)} {width : Nat} (r : Run P)
    (lawful : r.Lawful sources width) (events : List (Event P)) (i : Nat)
    (told : (seatAt r.seats i).Told sources i (about i events)) (moves : List Move) :
    (seatAt (r.play sources moves).1.seats i).Told sources i
      (about i (events ++ (r.play sources moves).2)) := by
  induction moves generalizing r events with
  | nil => simpa [play] using told
  | cons m rest ih =>
    have step := move_step sources r m
    have next := (step.goes lawful.controlled i).told (lawful.sound i) told
    rw [← step.tells lawful i, ← about_append] at next
    have later := ih _ (step.lawful lawful) _ next
    rwa [List.append_assoc] at later

theorem start_seats (repos : List String) (request : Request) (maxProbes nextLimit i : Nat) :
    seatAt (start repos request maxProbes nextLimit : Run P).seats i = .waiting := by
  simp only [start]
  split <;> exact seatAt_replicate _ i

theorem play_fetching {sources : List (Source P)} {width : Nat} (r : Run P)
    (lawful : r.Lawful sources width) (i : Nat) (payload : P)
    (fetching : seatAt r.seats i = .fetching payload) (moves : List Move)
    (other : .endFetch i ∉ moves) :
    seatAt (r.play sources moves).1.seats i = .fetching payload := by
  induction moves generalizing r with
  | nil => exact fetching
  | cons m rest ih =>
    obtain ⟨now, later⟩ := not_or.mp (mt List.mem_cons.mpr other)
    have step := move_step sources r m
    have goes := step.goes lawful.controlled i
    rw [fetching] at goes
    exact ih _ (step.lawful lawful) (goes.fetching (Ne.symm now)) later

theorem start_given (repos : List String) (request : Request) (maxProbes nextLimit : Nat) :
    (start repos request maxProbes nextLimit : Run P).request = request ∧
      (start repos request maxProbes nextLimit : Run P).offset = min request.offset repos.length ∧
      (start repos request maxProbes nextLimit : Run P).nextLimit = nextLimit := by
  simp only [start]
  split <;> exact ⟨rfl, rfl, rfl⟩

theorem play_given (sources : List (Source P)) (r : Run P) (moves : List Move) :
    (r.play sources moves).1.request = r.request ∧ (r.play sources moves).1.offset = r.offset ∧
      (r.play sources moves).1.nextLimit = r.nextLimit := by
  induction moves generalizing r with
  | nil => exact ⟨rfl, rfl, rfl⟩
  | cons m rest ih =>
    obtain ⟨request, _, offset, nextLimit⟩ := (move_step sources r m).given
    obtain ⟨same, place, proposes⟩ := ih (r.move sources m).1
    exact ⟨same.trans request, place.trans offset, proposes.trans nextLimit⟩

theorem still_of_next {r : Run P} (settled : r.next = none) :
    r.release? = none ∧ r.advance? = none ∧ r.reaper? = none ∧ r.call? = none ∧
      r.launch? = none := by
  unfold next at settled
  cases released : r.release? <;> cases advanced : r.advance? <;> cases reaped : r.reaper? <;>
    cases called : r.call? <;> simp_all

theorem silent_of_reap? {r : Run P} {finish : Run P -> Run P} (stuck : r.reap? finish = none) :
    r.reports = [] ∧ r.isSilent = false := by
  unfold reap? at stuck
  split at stuck
  next => cases stuck
  next mail => exact ⟨mail, by simpa using stuck⟩

theorem silent_of_receive? {r : Run P} (stuck : r.receive? = none) :
    r.reports = [] ∧ r.isSilent = false := by
  unfold receive? at stuck
  split at stuck
  next => cases stuck
  next mail => exact ⟨mail, by simpa using stuck⟩

theorem fetching_of_collect? {r : Run P} {dispatched : List Nat} {harvests : List (Nat × Harvest)}
    {failure : Option Failure} (stuck : r.collect? dispatched harvests failure = none) :
    r.results = [] ∧ r.seats.any Seat.isFetching = true := by
  unfold collect? at stuck
  split at stuck
  next => split at stuck <;> cases stuck
  next mail => exact ⟨mail, by simpa using stuck⟩

theorem waits_of_advance? {r : Run P} (stuck : r.advance? = none) :
    match r.phase with
    | .deciding => r.reports = [] ∧ r.isSilent = false
    | .decided _ => False
    | .closing _ => r.launching = true
    | .draining _ => r.reports = [] ∧ r.isSilent = false
    | .fetching _ _ _ => r.results = [] ∧ r.seats.any Seat.isFetching = true
    | .failing _ => r.reaping = true
    | _ => True := by
  unfold advance? at stuck
  cases phase : r.phase with
  | deciding =>
    rw [phase] at stuck
    exact silent_of_receive? (Option.map_eq_none_iff.mp stuck)
  | decided failure => simp [phase] at stuck
  | closing failure => simpa [phase] using stuck
  | draining failure =>
    rw [phase] at stuck
    exact silent_of_reap? (Option.map_eq_none_iff.mp stuck)
  | fetching dispatched harvests failure =>
    rw [phase] at stuck
    exact fetching_of_collect? (Option.map_eq_none_iff.mp stuck)
  | failing failure => simpa [phase] using stuck
  | done outcome => trivial
  | aborted => trivial

theorem permits_of_launch? {r : Run P} (stuck : r.launch? = none) (launching : r.launching = true) :
    r.holding = false ∧ r.closed = false ∧ r.launched < r.names.length ∧ r.permits = 0 := by
  unfold launch? at stuck
  simp only [launching, Bool.not_true, Bool.false_eq_true, if_false] at stuck
  split at stuck
  next => cases stuck
  next empty =>
    split at stuck
    next => cases stuck
    next busy =>
      simp only [Bool.or_eq_true, decide_eq_true_eq, not_or] at busy
      split at stuck
      next none => exact ⟨by simpa using empty, by simpa using busy.1, by omega, none⟩
      next => cases stuck

theorem called_of_call? {r : Run P} (stuck : r.call? = none) :
    r.seats.any Seat.isSpawned = false := by
  rw [call?, Option.map_eq_none_iff, List.findIdx?_eq_none_iff] at stuck
  simpa using stuck

theorem any_hasPermit (seats : List (Seat P)) :
    seats.any Seat.hasPermit = (seats.any Seat.isSpawned || seats.any Seat.isProbing) := by
  induction seats with
  | nil => rfl
  | cons s rest ih =>
    rw [List.any_cons, List.any_cons, List.any_cons, ih]
    cases s <;> simp [Seat.hasPermit, Seat.isSpawned, Seat.isProbing]

/-- Nothing happens by itself, and no call executes. -/
structure Rests (r : Run P) : Prop where
  settled : r.next = none
  probes : r.seats.any Seat.isProbing = false
  fetches : r.seats.any Seat.isFetching = false

instance (r : Run P) : Decidable r.Rests :=
  decidable_of_iff (r.next.isNone = true ∧ r.seats.any Seat.isProbing = false ∧
      r.seats.any Seat.isFetching = false)
    ⟨fun ⟨settled, probes, fetches⟩ => ⟨Option.isNone_iff_eq_none.mp settled, probes, fetches⟩,
      fun ⟨settled, probes, fetches⟩ => ⟨Option.isNone_iff_eq_none.mpr settled, probes, fetches⟩⟩

namespace Rests

variable {sources : List (Source P)} {width : Nat} {r : Run P}

theorem still (rests : r.Rests) :
    r.release? = none ∧ r.advance? = none ∧ r.reaper? = none ∧ r.call? = none ∧
      r.launch? = none :=
  still_of_next rests.settled

theorem permits (rests : r.Rests) : r.seats.any Seat.hasPermit = false := by
  obtain ⟨_, _, _, called, _⟩ := rests.still
  rw [any_hasPermit, called_of_call? called, rests.probes]
  rfl

theorem finished (rests : r.Rests) (lawful : r.Lawful sources width)
    (room : 0 < r.names.length -> 0 < width) :
    r.launching = false ∧ r.reaping = false ∧
      ((∃ outcome, r.phase = .done outcome) ∨ r.phase = .aborted) := by
  obtain ⟨_, advanced, reaped, _, launched⟩ := rests.still
  have gone : r.launching = false := by
    by_contra launching
    obtain ⟨empty, _, more, spent⟩ := permits_of_launch? launched (by simpa using launching)
    have calm : r.seats.countP Seat.hasPermit = 0 := by
      rw [List.countP_eq_zero]
      simpa using rests.permits
    have budget := lawful.controlled.launched.budget
    have wide := room (by omega)
    rw [empty] at budget
    simp only [Bool.toNat_false] at budget
    omega
  have silent : r.isSilent = true := by simp [isSilent, gone, rests.permits]
  have calm : r.reaping = false := by
    by_contra reaping
    rw [reaper?, if_pos (by simpa using reaping), quiet, Option.map_eq_none_iff] at reaped
    have loud := (silent_of_reap? reaped).2
    simp [silent] at loud
  refine ⟨gone, calm, ?_⟩
  have waits := waits_of_advance? advanced
  cases phase : r.phase with
  | done outcome => exact .inl ⟨outcome, rfl⟩
  | aborted => exact .inr rfl
  | _ => simp [phase, silent, gone, calm, rests.fetches] at waits

theorem seat (rests : r.Rests) (lawful : r.Lawful sources width)
    (room : 0 < r.names.length -> 0 < width) (i : Nat) :
    seatAt r.seats i = .waiting ∨ seatAt r.seats i = .released ∨ seatAt r.seats i = .lost := by
  obtain ⟨released, _, _, _, _⟩ := rests.still
  obtain ⟨_, calm, ended⟩ := rests.finished lawful room
  have unprobed := (any_eq_false_iff Seat.hasPermit rfl r.seats).mp rests.permits i
  have unfetched := (any_eq_false_iff Seat.isFetching rfl r.seats).mp rests.fetches i
  have shut : (seatAt r.seats i).isFreed = false := by
    refine (any_eq_false_iff Seat.isFreed rfl r.seats).mp ?_ i
    rw [release?, Option.map_eq_none_iff, List.findIdx?_eq_none_iff] at released
    simpa using released
  have unheard : (seatAt r.seats i).isReported = false := by
    have flags := lawful.controlled.flagged.phase
    have deaf : r.listening = false := by
      rcases ended with ⟨outcome, phase⟩ | phase <;> simp_all
    have none : r.reports = [] := by
      by_contra mail
      simp [lawful.controlled.flagged.heard mail] at deaf
    have members := lawful.controlled.mailed.reports.members i
    rw [none] at members
    simpa using members
  have admitted := lawful.controlled.admitted i
  have left : (seatAt r.seats i).isHeld = false ∧ (seatAt r.seats i).isFetched = false := by
    rcases ended with ⟨outcome, phase⟩ | phase <;> simp_all [Phase.admits]
  cases seat : seatAt r.seats i <;>
    simp_all [Seat.hasPermit, Seat.isReported, Seat.isHeld, Seat.isFetching, Seat.isFetched,
      Seat.isFreed]

end Rests

end Run

end FleetSearch.Search
