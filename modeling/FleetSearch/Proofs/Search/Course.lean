import FleetSearch.Proofs.Search.Control

set_option autoImplicit false

namespace FleetSearch.Search

variable {P : Type}

namespace Seat

/-- How a move changes the seat of repository `i`. -/
inductive Goes (sources : List (Source P)) (i : Nat) : Move -> Seat P -> Seat P -> Prop
  | stay (m : Move) (s : Seat P) : Goes sources i m s s
  | spawn : Goes sources i .launch .waiting .spawned
  | call : Goes sources i (.call i) .spawned .probing
  | lose (lost : probeAt sources i = .lost) : Goes sources i (.endProbe i) .probing .lost
  | report (report : Except String (Finding P))
      (reports : (probeAt sources i).report? .probe = some report) :
    Goes sources i (.endProbe i) .probing (.reported report)
  | miss (alive : probeAt sources i ≠ .lost) : Goes sources i (.endProbe i) .probing .freed
  -- the report is received, or dropped with its gate
  | hold (m : Move) (finding : Finding P) (found : finding.found = true) :
    Goes sources i m (.reported (.ok finding)) (.held finding.payload)
  | drop (m : Move) (report : Except String (Finding P)) :
    Goes sources i m (.reported report) .freed
  | letGo (m : Move) (payload : P) : Goes sources i m (.held payload) .freed
  | fetch (m : Move) (payload : P) : Goes sources i m (.held payload) (.fetching payload)
  | bring (payload : P) (result : Except String Harvest)
      (brings : (fetchAt sources i payload).report? .fetch = some result) :
    Goes sources i (.endFetch i) (.fetching payload) (.fetched result)
  | missResult (payload : P) : Goes sources i (.endFetch i) (.fetching payload) .freed
  | collect (m : Move) (result : Except String Harvest) : Goes sources i m (.fetched result) .freed
  | release : Goes sources i (.release i) .freed .released

def Sound (sources : List (Source P)) (i : Nat) : Seat P -> Prop
  | .waiting => True
  | .spawned => True
  | .probing => True
  | .reported report => (probeAt sources i).report? .probe = some report
  | .held payload => probeAt sources i = .done { found := true, payload }
  | .fetching payload => probeAt sources i = .done { found := true, payload }
  | .fetched result => ∃ payload, probeAt sources i = .done { found := true, payload } ∧
      (fetchAt sources i payload).report? .fetch = some result
  | .freed => probeAt sources i ≠ .lost
  | .released => probeAt sources i ≠ .lost
  | .lost => probeAt sources i = .lost

theorem sound_at {sources : List (Source P)} {seats : List (Seat P)}
    (sound : ∀ i, (seatAt seats i).Sound sources i) {i : Nat} {s : Seat P}
    (seat : seatAt seats i = s) : s.Sound sources i :=
  seat ▸ sound i

def isOpen : Seat P -> Bool
  | .waiting => true
  | .spawned => true
  | .probing => true
  | .reported _ => true
  | .lost => true
  | _ => false

def isCalled : Seat P -> Bool
  | .waiting => false
  | .spawned => false
  | _ => true

def tells (i : Nat) : Seat P -> Seat P -> List (Event P)
  | .spawned, .probing => [.probe i]
  | .held payload, .fetching _ => [.fetch i payload]
  | .freed, .released => [.release i]
  | _, _ => []

def Visited (sources : List (Source P)) (i : Nat) (events : List (Event P)) : Prop :=
  events = [.probe i] ∨ ∃ payload,
    probeAt sources i = .done { found := true, payload } ∧ events = [.probe i, .fetch i payload]

def Told (sources : List (Source P)) (i : Nat) (events : List (Event P)) : Seat P -> Prop
  | .waiting => events = []
  | .spawned => events = []
  | .probing => events = [.probe i]
  | .reported _ => events = [.probe i]
  | .held _ => events = [.probe i]
  | .fetching payload => events = [.probe i, .fetch i payload]
  | .fetched _ => Visited sources i events
  | .freed => Visited sources i events
  | .released => ∃ visit, Visited sources i visit ∧ events = visit ++ [.release i]
  | .lost => events = [.probe i]

end Seat

theorem report_of_done {ending : Ending (Finding P)} {finding : Finding P}
    (reports : ending.report? .probe = some (.ok finding)) : ending = .done finding := by
  cases ending <;> simp_all [Ending.report?]

theorem not_lost_of_report {A : Type} {call : Call} {ending : Ending A} {report : Except String A}
    (reports : ending.report? call = some report) : ending ≠ .lost := by
  rintro rfl
  simp [Ending.report?] at reports

namespace Seat.Goes

variable {sources : List (Source P)} {i : Nat} {m : Move} {s next : Seat P}

theorem sound (goes : Goes sources i m s next) (held : s.Sound sources i) :
    next.Sound sources i := by
  cases goes with
  | stay => exact held
  | spawn => trivial
  | call => trivial
  | lose lost => exact lost
  | report report reports => exact reports
  | miss alive => exact alive
  | hold m finding found =>
    have done := report_of_done held
    rw [Seat.Sound, done]
    cases finding
    simp_all
  | drop m report => exact not_lost_of_report held
  | letGo m payload =>
    have done : probeAt sources i = .done { found := true, payload } := held
    simp [Seat.Sound, done]
  | fetch m payload => exact held
  | bring payload result brings => exact ⟨payload, held, brings⟩
  | missResult payload =>
    have done : probeAt sources i = .done { found := true, payload } := held
    simp [Seat.Sound, done]
  | collect m result =>
    obtain ⟨payload, done, _⟩ := held
    simp [Seat.Sound, done]
  | release => exact held

theorem isOpen (goes : Goes sources i m s next) (after : next.isOpen = true) :
    s.isOpen = true := by
  cases goes <;> simp_all [Seat.isOpen]

theorem fetching {payload : P} (goes : Goes sources i m (.fetching payload) next)
    (other : m ≠ .endFetch i) : next = .fetching payload := by
  cases goes with
  | stay => rfl
  | bring => exact absurd rfl other
  | missResult => exact absurd rfl other

theorem lost (goes : Goes sources i m s next) (dead : s = .lost) : next = .lost := by
  subst dead
  cases goes
  rfl

theorem probes (goes : Goes sources i m s next) (other : m ≠ .endProbe i) (before : s = .probing) :
    next = .probing := by
  cases goes <;> simp_all

theorem settled (goes : Goes sources i m s next) :
    (s.isCalled = true -> next.isCalled = true) ∧ (s = .released -> next = .released) := by
  cases goes <;> simp [Seat.isCalled]

theorem taken (goes : Goes sources i m s next) (other : m ≠ .call i)
    (after : next.isCalled = true) : s.isCalled = true := by
  cases goes <;> simp_all [Seat.isCalled]

theorem givenBack (goes : Goes sources i m s next) (other : m ≠ .release i)
    (after : next = .released) : s = .released := by
  cases goes <;> simp_all

theorem told {events : List (Event P)} (goes : Goes sources i m s next)
    (held : s.Sound sources i) (before : s.Told sources i events) :
    next.Told sources i (events ++ s.tells i next) := by
  cases goes with
  | stay =>
    have silent : s.tells i s = [] := by cases s <;> rfl
    rwa [silent, List.append_nil]
  | spawn => simpa [tells, Seat.Told] using before
  | call =>
    have none : events = [] := before
    simp [Seat.Told, Seat.tells, none]
  | lose | report | hold => simpa [tells, Seat.Told] using before
  | miss | drop | letGo =>
    have probed : events = [.probe i] := before
    simp [Seat.Told, Seat.tells, Visited, probed]
  | fetch m payload =>
    have probed : events = [.probe i] := before
    simp [Seat.Told, Seat.tells, probed]
  | bring payload result brings =>
    have visited : Visited sources i events := .inr ⟨payload, held, before⟩
    simpa [tells, Seat.Told] using visited
  | missResult payload =>
    have visited : Visited sources i events := .inr ⟨payload, held, before⟩
    simpa [tells, Seat.Told] using visited
  | collect => simpa [tells, Seat.Told] using before
  | release => exact ⟨events, before, rfl⟩

end Seat.Goes

theorem goes_set {sources : List (Source P)} {m : Move} {seats : List (Seat P)} {i : Nat}
    {s t : Seat P} (seat : seatAt seats i = t) (goes : Seat.Goes sources i m t s) (j : Nat) :
    Seat.Goes sources j m (seatAt seats j) (seatAt (seats.set i s) j) := by
  rcases seatAt_set_or seats i s j with same | ⟨here, put⟩
  · rw [same]
    exact .stay m _
  · subst here
    rwa [put, seat]

theorem goes_freeHeld (sources : List (Source P)) (i : Nat) (m : Move) (s : Seat P) :
    Seat.Goes sources i m s s.freeHeld := by
  cases s with
  | held payload => exact .letGo m payload
  | _ => exact .stay m _

theorem goes_freeReported (sources : List (Source P)) (i : Nat) (m : Move) (s : Seat P) :
    Seat.Goes sources i m s s.freeReported := by
  cases s with
  | reported report => exact .drop m report
  | held payload => exact .letGo m payload
  | _ => exact .stay m _

theorem goes_freeFetched (sources : List (Source P)) (i : Nat) (m : Move) (s : Seat P) :
    Seat.Goes sources i m s s.freeFetched := by
  cases s with
  | fetched result => exact .collect m result
  | _ => exact .stay m _

theorem goes_fetch (sources : List (Source P)) (i : Nat) (m : Move) (s : Seat P) :
    Seat.Goes sources i m s s.fetch := by
  cases s with
  | held payload => exact .fetch m payload
  | _ => exact .stay m _

theorem goes_seat (sources : List (Source P)) (i : Nat) (m : Move) (finding : Finding P) :
    Seat.Goes sources i m (.reported (.ok finding)) finding.seat := by
  unfold Finding.seat
  split
  next found => exact .hold m finding found
  next => exact .drop m _

namespace Run.Step

variable {sources : List (Source P)} {width : Nat} {r next : Run P} {m : Move}
  {events : List (Event P)}

theorem goes (step : Step sources r m events next) (held : r.Controlled width) (j : Nat) :
    Seat.Goes sources j m (seatAt r.seats j) (seatAt next.seats j) := by
  cases step with
  | idle | take | leave | desert | close | drained | reaped | fail | page | giveIn
    | abandonFailure | strayReport => exact .stay _ _
  | release i seat => exact goes_set seat .release j
  | spawn launching holding =>
    have seat := (held.launched.waiting r.launched).mpr (Nat.le_refl _)
    exact goes_set seat .spawn j
  | call i seat => exact goes_set seat .call j
  | refuse i rest message phase mail seat => exact goes_set seat (.drop _ _) j
  | settle i rest finding phase mail seat settled => exact goes_set seat (goes_seat _ _ _ _) j
  | record i rest finding phase mail seat unsettled => exact goes_set seat (goes_seat _ _ _ _) j
  | letGo failure phase gone =>
    rw [seatAt_map _ rfl]
    exact goes_freeHeld sources j _ _
  | dispatch phase gone =>
    rw [seatAt_dispatchSeats]
    split
    next => exact goes_fetch sources j _ _
    next => exact goes_freeHeld sources j _ _
  | reap m i rest mail calm =>
    obtain ⟨report, seat⟩ := (mail ▸ held.mailed).reported
    exact goes_set seat (.drop _ _) j
  | collect dispatched harvests failure i rest harvest phase mail seat =>
    exact goes_set seat (.collect _ _) j
  | spoil dispatched harvests failure i rest message phase mail seat =>
    exact goes_set seat (.collect _ _) j
  | strayResult dispatched harvests failure i rest phase mail stray =>
    obtain ⟨result, seat⟩ := (mail ▸ held.mailed).fetched
    exact goes_set seat (.collect _ _) j
  | loseProbe i seat lost => exact goes_set seat (.lose lost) j
  | report i report seat reports listening => exact goes_set seat (.report report reports) j
  | missReport i seat reports deaf => exact goes_set seat (.miss reports) j
  | bring dispatched harvests failure i payload result seat brings phase =>
    exact goes_set seat (.bring payload result brings) j
  | missResult i payload seat deaf => exact goes_set seat (.missResult payload) j
  | abandon early =>
    rw [seatAt_map _ rfl]
    exact goes_freeReported sources j _ _
  | abandonFetches dispatched harvests failure phase =>
    rw [seatAt_map _ rfl]
    exact goes_freeFetched sources j _ _

inductive Lends (r next : Run P) : List (Event P) -> Prop
  | up (i : Nat) (inside : i < r.seats.length) (seat : seatAt r.seats i = .spawned)
      (seats : next.seats = r.seats.set i .probing) : Lends r next [.probe i]
  | back (i : Nat) (seat : seatAt r.seats i = .freed)
      (seats : next.seats = r.seats.set i .released) : Lends r next [.release i]
  | none (events : List (Event P)) (fetches : ∀ e ∈ events, ∃ i payload, e = .fetch i payload)
      (taken : ∀ i, (seatAt next.seats i).isCalled = true -> (seatAt r.seats i).isCalled = true)
      (given : ∀ i, seatAt next.seats i = .released -> seatAt r.seats i = .released) :
    Lends r next events

theorem lends (step : Step sources r m events next) (held : r.Controlled width) :
    Lends r next events := by
  have still : events = [] -> (∀ i, m ≠ .call i) -> (∀ i, m ≠ .release i) ->
      Lends r next events := by
    rintro rfl call release
    exact .none [] nofun (fun i => (step.goes held i).taken (call i))
      fun i => (step.goes held i).givenBack (release i)
  have same : events = [] -> next.seats = r.seats -> Lends r next events := by
    rintro rfl same
    exact .none [] nofun (fun i taken => same ▸ taken) fun i given => same ▸ given
  have goes := step.goes held
  cases step with
  | release i seat => exact .back i seat rfl
  | call i seat => exact .up i (lt_length_of_seatAt fun waiting => nomatch seat.symm.trans waiting) seat rfl
  | idle => exact same rfl rfl
  | dispatch phase gone =>
    refine .none _ (fun e member => ?_) (fun i => (goes i).taken nofun)
      fun i => (goes i).givenBack nofun
    obtain ⟨i, _, fetches⟩ := List.mem_flatMap.mp member
    unfold fetchEvent at fetches
    split at fetches
    next payload _ => exact ⟨i, payload, List.mem_singleton.mp fetches⟩
    next => cases fetches
  | reap m i rest mail calm =>
    rcases calm with ⟨rfl, _⟩ | ⟨rfl, _⟩ <;> exact still rfl nofun nofun
  | _ => exact still rfl nofun nofun

end Run.Step

end FleetSearch.Search
