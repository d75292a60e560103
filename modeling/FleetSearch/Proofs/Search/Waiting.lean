import FleetSearch.Proofs.Search.Budget

set_option autoImplicit false

namespace FleetSearch.Search

variable {P : Type}

theorem exists_of_any {p : Seat P -> Bool} (vacant : p .waiting = false) {seats : List (Seat P)}
    (some : seats.any p = true) : ∃ i, p (seatAt seats i) = true := by
  by_contra none
  have calm := (any_eq_false_iff p vacant seats).mpr fun i => by
    by_contra here
    exact none ⟨i, by simpa using here⟩
  simp [calm] at some

namespace Run

/-- What a settled run waits for. -/
inductive Awaits (sources : List (Source P)) (width : Nat) (r : Run P) : Prop
  -- the page is undecided: the first open repository is being probed
  | first (phase : r.phase = .deciding) (probing : r.isProbing r.cutoff.firstOpen = true)
  -- or it is not launched yet, and probes that execute have all permits
  | permit (phase : r.phase = .deciding) (inside : r.cutoff.firstOpen < r.names.length)
      (waiting : r.seat r.cutoff.firstOpen = .waiting)
      (spent : r.seats.countP Seat.isProbing = width)
  -- or its probe worker died, and another probe executes
  | lost (i : Nat) (phase : r.phase = .deciding) (lost : r.seat r.cutoff.firstOpen = .lost)
      (probing : r.isProbing i = true)
  -- a probe failed, and another one executes
  | drain (i : Nat) (failure : Failure) (phase : r.phase = .draining failure)
      (undecided : r.cutoff.settled = false) (probing : r.isProbing i = true)
  -- the page is decided and its fetches are over, but one of them brought nothing
  | reaper (i : Nat) (failure : Failure) (phase : r.phase = .failing failure)
      (ended : ∀ j, r.isFetching j = false) (foiled : FetchFails sources r.cutoff.firstOpen)
      (probing : r.isProbing i = true)
  -- the page is decided, and one of its fetches executes
  | fetch (i : Nat) (dispatched : List Nat) (harvests : List (Nat × Harvest))
      (failure : Option Failure) (phase : r.phase = .fetching dispatched harvests failure)
      (decided : r.cutoff.settled = true) (one : i ∈ dispatched) (fetching : r.isFetching i = true)

def Executes (r : Run P) : Prop :=
  ∃ i, r.isProbing i = true ∨ r.isFetching i = true

theorem Awaits.executes {sources : List (Source P)} {width : Nat} {r : Run P}
    (awaits : r.Awaits sources width) (room : 0 < r.names.length -> 0 < width) : r.Executes := by
  cases awaits with
  | first phase probing => exact ⟨_, .inl probing⟩
  | permit phase inside waiting spent =>
    have wide := room (by omega)
    have some : r.seats.any Seat.isProbing = true := by
      rw [List.any_eq_true]
      exact List.countP_pos_iff.mp (spent ▸ wide)
    obtain ⟨i, probing⟩ := exists_of_any rfl some
    exact ⟨i, .inl probing⟩
  | lost i phase lost probing => exact ⟨i, .inl probing⟩
  | drain i failure phase undecided probing => exact ⟨i, .inl probing⟩
  | reaper i failure phase ended foiled probing => exact ⟨i, .inl probing⟩
  | fetch i dispatched harvests failure phase decided one fetching => exact ⟨i, .inr fetching⟩

theorem probing_of_loud {width : Nat} {r : Run P} (held : r.Controlled width)
    (room : 0 < r.names.length -> 0 < width) (settled : r.next = none)
    (loud : r.isSilent = false) : ∃ i, r.isProbing i = true := by
  obtain ⟨_, _, _, called, stuck⟩ := still_of_next settled
  refine exists_of_any rfl ?_
  by_cases launching : r.launching = true
  next =>
    obtain ⟨_, _, more, spent⟩ := permits_of_launch? stuck launching
    obtain ⟨empty, none⟩ := held.calm settled
    have budget := held.launched.budget
    have wide := room (by omega)
    rw [countP_hasPermit, none, empty, Bool.toNat_false] at budget
    rw [List.any_eq_true]
    exact List.countP_pos_iff.mp (by omega)
  next =>
    have busy : r.seats.any Seat.hasPermit = true := by simpa [isSilent, launching] using loud
    rwa [any_hasPermit, called_of_call? called, Bool.false_or] at busy

namespace Lawful

variable {sources : List (Source P)} {width : Nat} {r : Run P}

theorem awaits_first (lawful : r.Lawful sources width) (room : 0 < r.names.length -> 0 < width)
    (phase : r.phase = .deciding) (mail : r.reports = []) (loud : r.isSilent = false)
    (settled : r.next = none) : r.Awaits sources width := by
  obtain ⟨_, _, _, called, stuck⟩ := still_of_next settled
  have held := lawful.controlled
  have decided := lawful.decided
  rw [phase] at decided
  obtain ⟨inside, unanswered⟩ := decided.walked.stops (decided.unsettled rfl)
  rw [decided.length] at inside
  have opened : (seatAt r.seats r.cutoff.firstOpen).isOpen = true := by
    by_contra closed
    simp [decided.answered rfl _ (by simpa using closed)] at unanswered
  cases seat : seatAt r.seats r.cutoff.firstOpen with
  | waiting =>
    have behind := (held.launched.waiting _).mp seat
    have launching : r.launching = true := by
      by_contra gone
      have flags := held.flagged.phase
      rcases (held.launched.leaves (by simpa using gone)).2 with closed | all
      · simp [phase, closed] at flags
      · omega
    obtain ⟨_, _, _, spent⟩ := permits_of_launch? stuck launching
    obtain ⟨empty, none⟩ := held.calm settled
    have budget := held.launched.budget
    rw [countP_hasPermit, none, empty, Bool.toNat_false] at budget
    exact .permit phase inside seat (by omega)
  | spawned =>
    have none := (any_eq_false_iff Seat.isSpawned rfl r.seats).mp (called_of_call? called)
      r.cutoff.firstOpen
    simp [seat, Seat.isSpawned] at none
  | probing => exact .first phase (by rw [isProbing, show r.seat _ = _ from seat]; rfl)
  | reported report =>
    have none := held.mailed.reports.members r.cutoff.firstOpen
    simp [mail, seat, Seat.isReported] at none
  | lost =>
    obtain ⟨i, probing⟩ := probing_of_loud held room settled loud
    exact .lost i phase seat probing
  | _ => simp [seat, Seat.isOpen] at opened

theorem awaits (lawful : r.Lawful sources width) (room : 0 < r.names.length -> 0 < width)
    (settled : r.next = none) (unfinished : r.outcome? = none) (wanted : r.phase ≠ .aborted) :
    r.Awaits sources width := by
  obtain ⟨_, advanced, reaped, _, stuck⟩ := still_of_next settled
  have held := lawful.controlled
  have flags := held.flagged.phase
  have waits := waits_of_advance? advanced
  have foiled := lawful.foiled
  cases phase : r.phase with
  | deciding =>
    rw [phase] at waits
    exact lawful.awaits_first room phase waits.1 waits.2 settled
  | decided failure =>
    rw [phase] at waits
    exact waits.elim
  | closing failure =>
    simp only [phase] at waits flags
    have unclosed := (permits_of_launch? stuck waits).2.1
    simp [flags.1] at unclosed
  | draining failure =>
    rw [phase] at waits foiled
    obtain ⟨i, probing⟩ := probing_of_loud held room settled waits.2
    exact .drain i failure phase foiled probing
  | fetching dispatched harvests failure =>
    rw [phase] at waits
    obtain ⟨i, fetching⟩ := exists_of_any rfl waits.2
    have decided := lawful.decided.settled (.inr (.inr (by rw [phase]; rfl)))
    refine .fetch i dispatched harvests failure phase decided ?_ fetching
    refine (lawful.gathered _ _ _ phase).awaited i ?_
    cases seat : seatAt r.seats i <;> simp_all [Seat.isFetching, Seat.isOut]
  | failing failure =>
    rw [phase] at waits foiled
    rw [reaper?, if_pos waits, quiet, Option.map_eq_none_iff] at reaped
    obtain ⟨i, probing⟩ := probing_of_loud held room settled (silent_of_reap? reaped).2
    refine .reaper i failure phase (fun j => ?_) foiled probing
    have admitted := held.admitted j
    rw [phase] at admitted
    cases seat : seatAt r.seats j <;>
      simp_all [Phase.admits, isFetching, Run.seat, seatAt, Seat.isFetching]
  | done outcome => simp [outcome?, phase] at unfinished
  | aborted => exact absurd phase wanted

theorem pages (lawful : r.Lawful sources width) (room : 0 < r.names.length -> 0 < width)
    (settled : r.next = none) (wanted : r.phase ≠ .aborted) (decided : r.cutoff.settled = true)
    (fetched : ∀ i, r.isFetching i = false) (bring : ¬ FetchFails sources r.cutoff.firstOpen) :
    ∃ page, r.outcome? = some (.ok page) := by
  have unsettled := lawful.decided.unsettled
  cases ended : r.outcome? with
  | none =>
    cases lawful.awaits room settled ended wanted with
    | first phase => simp [unsettled phase] at decided
    | permit phase => simp [unsettled phase] at decided
    | lost i phase => simp [unsettled phase] at decided
    | drain i failure phase undecided => simp [undecided] at decided
    | reaper i failure phase ended foiled => exact absurd foiled bring
    | fetch i dispatched harvests failure phase decided one fetching => simp [fetched i] at fetching
  | some outcome =>
    cases outcome with
    | ok page => exact ⟨page, rfl⟩
    | error failure =>
      have foiled := lawful.foiled
      rw [phase_of_outcome ended] at foiled
      rcases foiled with undecided | foiled
      · simp [undecided] at decided
      · exact absurd foiled bring

end Lawful

end Run

end FleetSearch.Search
