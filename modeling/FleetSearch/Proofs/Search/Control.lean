import FleetSearch.Proofs.Search.Ownership

set_option autoImplicit false

namespace FleetSearch.Search

variable {P : Type}

def Phase.admits : Phase -> Seat P -> Bool
  | .deciding, s => !s.isFetching && !s.isFetched
  | .decided _, s => !s.isFetching && !s.isFetched
  | .closing _, s => !s.isFetching && !s.isFetched
  | .fetching _ _ _, s => !s.isHeld
  | .aborted, s => !s.isHeld && !s.isFetched
  | _, s => !s.isHeld && !s.isFetching && !s.isFetched

namespace Run

structure Flagged (r : Run P) : Prop where
  heard : r.reports ≠ [] -> r.listening = true
  phase : match r.phase with
    | .deciding => r.closed = false ∧ r.listening = true ∧ r.reaping = false
    | .decided _ => r.closed = false ∧ r.listening = true ∧ r.reaping = false
    | .closing _ => r.closed = true ∧ r.listening = true ∧ r.reaping = false
    | .draining _ =>
      r.closed = true ∧ r.launching = false ∧ r.listening = true ∧ r.reaping = false
    | .aborted => r.listening = r.reaping
    | _ => r.closed = true ∧ r.launching = false ∧ r.listening = r.reaping

structure Controlled (width : Nat) (r : Run P) : Prop where
  launched : Launched width r.names.length r.seats r.launched r.permits r.holding r.launching
    r.closed
  mailed : Mailed r.seats r.reports r.results
  flagged : r.Flagged
  admitted : ∀ i, r.phase.admits (seatAt r.seats i) = true

end Run

theorem isEnded_seat (finding : Finding P) : finding.seat.isEnded = true := by
  unfold Finding.seat
  split <;> rfl

theorem quiet_seat (finding : Finding P) :
    finding.seat.isReported = false ∧ finding.seat.isFetched = false := by
  unfold Finding.seat
  split <;> exact ⟨rfl, rfl⟩

theorem admits_seat (finding : Finding P) : Phase.deciding.admits finding.seat = true := by
  unfold Finding.seat
  split <;> rfl

theorem admits_set {phase : Phase} {seats : List (Seat P)} {i : Nat} {s : Seat P}
    (old : ∀ j, phase.admits (seatAt seats j) = true) (new : phase.admits s = true) (j : Nat) :
    phase.admits (seatAt (seats.set i s) j) = true := by
  rcases seatAt_set_or seats i s j with same | ⟨_, put⟩
  · rw [same]
    exact old j
  · rwa [put]

theorem admits_over {width : Nat} {r : Run P} (held : r.Controlled width) {dispatched : List Nat}
    {harvests : List (Nat × Harvest)} {failure : Option Failure}
    (phase : r.phase = .fetching dispatched harvests failure) (mail : r.results = [])
    (quiet : r.seats.any Seat.isFetching = false) (i : Nat) :
    (Phase.done (.ok {})).admits (seatAt r.seats i) = true := by
  have before := held.admitted i
  rw [phase] at before
  have still := (any_eq_false_iff Seat.isFetching rfl r.seats).mp quiet i
  have empty : (seatAt r.seats i).isFetched = false := by
    have none := held.mailed.results.members i
    rw [mail] at none
    simpa using none
  simp_all [Phase.admits]

namespace Run.Step

variable {sources : List (Source P)} {width : Nat} {r next : Run P} {m : Move}
  {events : List (Event P)}

theorem launched (step : Step sources r m events next) (held : r.Controlled width) :
    Launched width next.names.length next.seats next.launched next.permits next.holding
      next.launching next.closed := by
  have old := held.launched
  cases step with
  | idle | strayReport | desert | drained | reaped | fail | page | giveIn | abandonFailure =>
    exact old
  | release i seat => exact old.set_ended seat rfl rfl
  | take permits launching empty unclosed more free =>
    rw [free, empty] at old
    exact old.take launching more
  | spawn launching holding => exact (holding ▸ old).spawn launching
  | leave launching empty spent =>
    rw [empty] at old ⊢
    exact old.leave spent
  | call i seat => exact old.call seat
  | refuse i rest message phase mail seat => exact old.set_ended seat rfl rfl
  | settle i rest finding phase mail seat settled =>
    exact old.set_ended seat rfl (isEnded_seat finding)
  | record i rest finding phase mail seat unsettled =>
    exact old.set_ended seat rfl (isEnded_seat finding)
  | close => exact old.close
  | letGo failure phase gone =>
    exact old.map _ (fun s => by cases s <;> rfl) (fun s => by cases s <;> simp [Seat.freeHeld])
  | dispatch phase gone => exact old.dispatch _
  | reap m i rest mail calm =>
    obtain ⟨report, seat⟩ := (mail ▸ held.mailed).reported
    exact old.set_ended seat rfl rfl
  | collect dispatched harvests failure i rest harvest phase mail seat =>
    exact old.set_ended seat rfl rfl
  | spoil dispatched harvests failure i rest message phase mail seat =>
    exact old.set_ended seat rfl rfl
  | strayResult dispatched harvests failure i rest phase mail stray =>
    obtain ⟨result, seat⟩ := (mail ▸ held.mailed).fetched
    exact old.set_ended seat rfl rfl
  | loseProbe i seat lost => exact old.end_probe seat rfl
  | report i report seat reports listening => exact old.end_probe seat rfl
  | missReport i seat reports deaf => exact old.end_probe seat rfl
  | bring dispatched harvests failure i payload result seat brings phase =>
    exact old.set_ended seat rfl rfl
  | missResult i payload seat deaf => exact old.set_ended seat rfl rfl
  | abandon early =>
    exact old.map _ (fun s => by cases s <;> rfl)
      (fun s => by cases s <;> simp [Seat.freeReported, Seat.freeHeld])
  | abandonFetches dispatched harvests failure phase =>
    exact old.map _ (fun s => by cases s <;> rfl)
      (fun s => by cases s <;> simp [Seat.freeFetched])

theorem mailed (step : Step sources r m events next) (held : r.Controlled width) :
    Mailed next.seats next.reports next.results := by
  have old := held.mailed
  cases step with
  | idle | take | leave | desert | close | reaped | fail | page | giveIn | drained
    | abandonFailure => exact old
  | release i seat => exact old.set_quiet seat ⟨rfl, rfl⟩ ⟨rfl, rfl⟩
  | spawn launching holding =>
    have seat := (held.launched.waiting r.launched).mpr (Nat.le_refl _)
    exact old.set_quiet seat ⟨rfl, rfl⟩ ⟨rfl, rfl⟩
  | call i seat => exact old.set_quiet seat ⟨rfl, rfl⟩ ⟨rfl, rfl⟩
  | refuse i rest message phase mail seat => exact (mail ▸ old).pop_report ⟨rfl, rfl⟩
  | settle i rest finding phase mail seat settled =>
    exact (mail ▸ old).pop_report (quiet_seat finding)
  | record i rest finding phase mail seat unsettled =>
    exact (mail ▸ old).pop_report (quiet_seat finding)
  | strayReport i rest phase mail stray =>
    obtain ⟨report, seat⟩ := (mail ▸ old).reported
    exact absurd seat (stray report)
  | letGo failure phase gone =>
    exact ⟨old.reports.map _ rfl fun s => by cases s <;> rfl,
      old.results.map _ rfl fun s => by cases s <;> rfl⟩
  | dispatch phase gone =>
    exact ⟨old.reports.dispatch _ (fun s => by cases s <;> rfl) fun s => by cases s <;> rfl,
      old.results.dispatch _ (fun s => by cases s <;> rfl) fun s => by cases s <;> rfl⟩
  | reap m i rest mail calm => exact (mail ▸ old).pop_report ⟨rfl, rfl⟩
  | collect dispatched harvests failure i rest harvest phase mail seat =>
    exact (mail ▸ old).pop_result ⟨rfl, rfl⟩
  | spoil dispatched harvests failure i rest message phase mail seat =>
    exact (mail ▸ old).pop_result ⟨rfl, rfl⟩
  | strayResult dispatched harvests failure i rest phase mail stray =>
    exact (mail ▸ old).pop_result ⟨rfl, rfl⟩
  | loseProbe i seat lost => exact old.set_quiet seat ⟨rfl, rfl⟩ ⟨rfl, rfl⟩
  | report i report seat reports listening =>
    exact old.push_report seat (by simp) ⟨rfl, rfl⟩ ⟨rfl, rfl⟩
  | missReport i seat reports deaf => exact old.set_quiet seat ⟨rfl, rfl⟩ ⟨rfl, rfl⟩
  | bring dispatched harvests failure i payload result seat brings phase =>
    exact old.push_result seat (by simp) ⟨rfl, rfl⟩ ⟨rfl, rfl⟩
  | missResult i payload seat deaf => exact old.set_quiet seat ⟨rfl, rfl⟩ ⟨rfl, rfl⟩
  | abandon early =>
    exact ⟨.clear _ rfl (fun s => by cases s <;> rfl) _,
      old.results.map _ rfl fun s => by cases s <;> rfl⟩
  | abandonFetches dispatched harvests failure phase =>
    exact ⟨old.reports.map _ rfl fun s => by cases s <;> rfl,
      .clear _ rfl (fun s => by cases s <;> rfl) _⟩

theorem flagged (step : Step sources r m events next) (held : r.Controlled width) :
    next.Flagged := by
  obtain ⟨heard, flags⟩ := held.flagged
  cases step with
  | idle | release | take | spawn | call => exact ⟨heard, flags⟩
  | leave =>
    refine ⟨heard, ?_⟩
    cases phase : r.phase <;> simp_all
  | refuse i rest message phase mail seat =>
    exact ⟨fun _ => heard (by simp [mail]), by simp_all [put]⟩
  | settle i rest finding phase mail seat settled =>
    exact ⟨fun _ => heard (by simp [mail]), by simp_all [put]⟩
  | record i rest finding phase mail seat unsettled =>
    exact ⟨fun _ => heard (by simp [mail]), by simp_all [put]⟩
  | strayReport i rest phase mail stray => exact ⟨fun _ => heard (by simp [mail]), flags⟩
  | desert phase mail silent => exact ⟨heard, by simp_all⟩
  | close failure phase => exact ⟨heard, by simp_all⟩
  | letGo failure phase gone => exact ⟨heard, by simp_all⟩
  | dispatch phase gone => exact ⟨heard, by simp_all⟩
  | reap m i rest mail calm => exact ⟨fun _ => heard (by simp [mail]), flags⟩
  | drained failure phase mail silent => exact ⟨by simp_all, by simp_all⟩
  | reaped reaping mail silent =>
    refine ⟨by simp_all, ?_⟩
    cases phase : r.phase <;> simp_all
  | collect dispatched harvests failure i rest harvest phase mail seat =>
    exact ⟨heard, by simp_all [put]⟩
  | spoil dispatched harvests failure i rest message phase mail seat =>
    exact ⟨heard, by simp_all [put]⟩
  | strayResult dispatched harvests failure i rest phase mail stray => exact ⟨heard, flags⟩
  | fail dispatched harvests failure blamed phase mail quiet blame => exact ⟨heard, by simp_all⟩
  | page dispatched harvests phase mail quiet complete => exact ⟨heard, by simp_all⟩
  | giveIn failure phase calm => exact ⟨heard, by simp_all⟩
  | loseProbe => exact ⟨heard, flags⟩
  | report i report seat reports listening => exact ⟨fun _ => listening, flags⟩
  | missReport => exact ⟨heard, flags⟩
  | bring => exact ⟨heard, flags⟩
  | missResult => exact ⟨heard, flags⟩
  | abandon early =>
    refine ⟨by simp, ?_⟩
    obtain phase | ⟨failure, phase⟩ | ⟨failure, phase⟩ := early <;> simp_all
  | abandonFetches dispatched harvests failure phase => exact ⟨heard, by simp_all⟩
  | abandonFailure failure phase => exact ⟨heard, by simp_all⟩

theorem admitted (step : Step sources r m events next) (held : r.Controlled width) (i : Nat) :
    next.phase.admits (seatAt next.seats i) = true := by
  have old := held.admitted
  cases step with
  | idle | take | leave | strayReport | reaped => exact old i
  | release => exact admits_set old (by cases r.phase <;> rfl) i
  | spawn => exact admits_set old (by cases r.phase <;> rfl) i
  | call => exact admits_set old (by cases r.phase <;> rfl) i
  | refuse j rest message phase mail seat =>
    have before : ∀ k, Phase.deciding.admits (seatAt r.seats k) = true := fun k => phase ▸ old k
    exact admits_set before rfl i
  | settle j rest finding phase mail seat settled =>
    have before : ∀ k, Phase.deciding.admits (seatAt r.seats k) = true := fun k => phase ▸ old k
    exact admits_set before (admits_seat finding) i
  | record j rest finding phase mail seat unsettled =>
    exact admits_set old (phase ▸ admits_seat finding) i
  | desert phase mail silent => exact (phase ▸ old) i
  | close failure phase => exact (phase ▸ old) i
  | letGo failure phase gone =>
    have before := old i
    rw [phase] at before
    rw [seatAt_map _ rfl]
    cases seat : seatAt r.seats i <;>
      simp_all [Phase.admits, Seat.freeHeld, Seat.isHeld, Seat.isFetching, Seat.isFetched]
  | dispatch phase gone =>
    have before := old i
    rw [phase] at before
    rw [seatAt_dispatchSeats]
    split <;> cases seat : seatAt r.seats i <;>
      simp_all [Phase.admits, Seat.freeHeld, Seat.fetch, Seat.isHeld]
  | reap => exact admits_set old (by cases r.phase <;> rfl) i
  | drained failure phase mail silent => exact (phase ▸ old) i
  | collect dispatched harvests failure j rest harvest phase mail seat =>
    have before : ∀ k,
        (Phase.fetching dispatched harvests failure).admits (seatAt r.seats k) = true :=
      fun k => phase ▸ old k
    exact admits_set before rfl i
  | spoil dispatched harvests failure j rest message phase mail seat =>
    have before : ∀ k,
        (Phase.fetching dispatched harvests failure).admits (seatAt r.seats k) = true :=
      fun k => phase ▸ old k
    exact admits_set before rfl i
  | strayResult => exact admits_set old (by cases r.phase <;> rfl) i
  | fail dispatched harvests failure blamed phase mail quiet blame =>
    exact admits_over held phase mail quiet i
  | page dispatched harvests phase mail quiet complete =>
    exact admits_over held phase mail quiet i
  | giveIn failure phase calm => exact (phase ▸ old) i
  | loseProbe => exact admits_set old (by cases r.phase <;> rfl) i
  | report => exact admits_set old (by cases r.phase <;> rfl) i
  | missReport => exact admits_set old (by cases r.phase <;> rfl) i
  | bring dispatched harvests failure j payload result seat brings phase =>
    exact admits_set old (phase ▸ rfl) i
  | missResult => exact admits_set old (by cases r.phase <;> rfl) i
  | abandon early =>
    have before := old i
    rw [seatAt_map _ rfl]
    obtain phase | ⟨failure, phase⟩ | ⟨failure, phase⟩ := early <;>
      cases seat : seatAt r.seats i <;>
      simp_all [Phase.admits, Seat.freeReported, Seat.freeHeld, Seat.isHeld, Seat.isFetching,
        Seat.isFetched]
  | abandonFetches dispatched harvests failure phase =>
    have before := old i
    rw [phase] at before
    rw [seatAt_map _ rfl]
    cases seat : seatAt r.seats i <;>
      simp_all [Phase.admits, Seat.freeFetched, Seat.isHeld, Seat.isFetched]
  | abandonFailure failure phase =>
    have before := old i
    rw [phase] at before
    cases seat : seatAt r.seats i <;> simp_all [Phase.admits]

theorem controlled (step : Step sources r m events next) (held : r.Controlled width) :
    next.Controlled width :=
  ⟨step.launched held, step.mailed held, step.flagged held, step.admitted held⟩

end Run.Step

end FleetSearch.Search
