import FleetSearch.Proofs.Search.Course
import Mathlib.Algebra.GroupWithZero.Nat

set_option autoImplicit false

/-!
A run settles. Every move that changes anything leaves less to do, so only so many of them can
follow one another, whatever their order; and what the run does by itself comes to its end within
the steps that it is given.
-/

namespace FleetSearch.Search

variable {P : Type}

def weigh (weight : Seat P -> Nat) (seats : List (Seat P)) : Nat :=
  (seats.map weight).sum

theorem weigh_le {weight : Seat P -> Nat} {before after : List (Seat P)}
    (length : after.length = before.length)
    (each : ∀ i, weight (seatAt after i) ≤ weight (seatAt before i)) :
    weigh weight after ≤ weigh weight before := by
  induction before generalizing after with
  | nil => simp [List.length_eq_zero_iff.mp length]
  | cons s rest ih =>
    cases after with
    | nil => simp at length
    | cons t others =>
      have head : weight t ≤ weight s := each 0
      have tail := ih (by simpa using length) fun i => each (i + 1)
      simp only [weigh, List.map_cons, List.sum_cons] at tail ⊢
      omega

theorem weigh_drop {weight : Seat P -> Nat} {before after : List (Seat P)} {i fall : Nat}
    (length : after.length = before.length)
    (each : ∀ i, weight (seatAt after i) ≤ weight (seatAt before i))
    (less : weight (seatAt after i) + fall ≤ weight (seatAt before i)) :
    weigh weight after + fall ≤ weigh weight before := by
  induction before generalizing after i with
  | nil =>
    obtain rfl : after = [] := List.length_eq_zero_iff.mp length
    have none : fall = 0 := by omega
    simp [none]
  | cons s rest ih =>
    cases after with
    | nil => simp at length
    | cons t others =>
      have length : others.length = rest.length := by simpa using length
      have head : weight t ≤ weight s := each 0
      have each : ∀ j, weight (seatAt others j) ≤ weight (seatAt rest j) := fun j => each (j + 1)
      simp only [weigh, List.map_cons, List.sum_cons]
      cases i with
      | zero =>
        have less : weight t + fall ≤ weight s := less
        have tail := weigh_le length each
        simp only [weigh] at tail
        omega
      | succ i =>
        have tail := ih length each less
        simp only [weigh] at tail
        omega

theorem weigh_lt {weight : Seat P -> Nat} {before after : List (Seat P)}
    (length : after.length = before.length)
    (each : ∀ i, weight (seatAt after i) ≤ weight (seatAt before i)) {i : Nat}
    (less : weight (seatAt after i) < weight (seatAt before i)) :
    weigh weight after < weigh weight before := by
  have drop : weigh weight after + 1 ≤ weigh weight before := weigh_drop length each less
  exact drop

theorem weigh_le_mul {weight : Seat P -> Nat} {most : Nat} (each : ∀ s, weight s ≤ most)
    (seats : List (Seat P)) : weigh weight seats ≤ most * seats.length := by
  induction seats with
  | nil => simp [weigh]
  | cons s rest ih =>
    have head := each s
    simp only [weigh, List.map_cons, List.sum_cons, List.length_cons, Nat.mul_succ] at ih ⊢
    omega

namespace Seat

-- The places on the way to the end, and for a repository that waits the permit to be taken.
def toGo : Seat P -> Nat
  | .waiting => 9
  | .spawned => 7
  | .probing => 6
  | .reported _ => 5
  | .held _ => 4
  | .fetching _ => 3
  | .fetched _ => 2
  | .freed => 1
  | .released => 0
  | .lost => 0

def calls : Seat P -> Nat
  | .waiting => 2
  | .spawned => 2
  | .probing => 2
  | .reported _ => 1
  | .held _ => 1
  | .fetching _ => 1
  | _ => 0

theorem toGo_le (s : Seat P) : s.toGo ≤ 9 := by
  cases s <;> simp [toGo]

theorem calls_le (s : Seat P) : s.calls ≤ 2 := by
  cases s <;> simp [calls]

namespace Goes

variable {sources : List (Source P)} {i : Nat} {m : Move} {s next : Seat P}

theorem toGo_lt (goes : Goes sources i m s next) (moved : next ≠ s) : next.toGo < s.toGo := by
  cases goes with
  | stay => exact absurd rfl moved
  | _ => simp [Seat.toGo]

theorem toGo_le (goes : Goes sources i m s next) : next.toGo ≤ s.toGo := by
  cases goes <;> simp [Seat.toGo]

theorem calls_le (goes : Goes sources i m s next) : next.calls ≤ s.calls := by
  cases goes <;> simp [Seat.calls]

end Goes

end Seat

def Phase.toGo : Phase -> Nat
  | .deciding => 6
  | .decided _ => 5
  | .closing _ => 4
  | .fetching _ _ _ => 2
  | .draining _ => 1
  | .failing _ => 1
  | .done _ => 0
  | .aborted => 0

namespace Run

-- What is left to the task of the run, the reaper and the launcher, which takes its next permit
-- when it has none.
def duty (r : Run P) : Nat :=
  r.phase.toGo + r.launching.toNat + r.reaping.toNat + (!r.holding).toNat

def toGo (r : Run P) : Nat :=
  weigh Seat.toGo r.seats + r.duty

def calls (r : Run P) : Nat :=
  weigh Seat.calls r.seats

namespace Step

variable {sources : List (Source P)} {width : Nat} {r next : Run P} {m : Move}
  {events : List (Event P)}

theorem length (step : Step sources r m events next) (held : r.Controlled width) :
    next.seats.length = r.seats.length := by
  have names : next.names = r.names := by cases step <;> rfl
  rw [(step.launched held).length, held.launched.length, names]

theorem calls_le (step : Step sources r m events next) (held : r.Controlled width) :
    next.calls ≤ r.calls :=
  weigh_le (step.length held) fun i => (step.goes held i).calls_le

theorem toGo_lt_of_seat (step : Step sources r m events next) (held : r.Controlled width) {i : Nat}
    {s t : Seat P} (inside : i < r.seats.length) (before : seatAt r.seats i = t)
    (after : next.seats = r.seats.set i s) (moved : s ≠ t) (duty : next.duty ≤ r.duty) :
    next.toGo < r.toGo := by
  have here : seatAt next.seats i = s := by rw [after, seatAt_set_self inside]
  have goes := step.goes held
  have fewer : weigh Seat.toGo next.seats < weigh Seat.toGo r.seats :=
    weigh_lt (step.length held) (fun j => (goes j).toGo_le) (i := i)
      ((goes i).toGo_lt (by rwa [here, before]))
  simp only [toGo]
  omega

theorem toGo_lt_of_duty (step : Step sources r m events next) (held : r.Controlled width)
    (duty : next.duty < r.duty) : next.toGo < r.toGo := by
  have seats : weigh Seat.toGo next.seats ≤ weigh Seat.toGo r.seats :=
    weigh_le (step.length held) fun i => (step.goes held i).toGo_le
  simp only [toGo]
  omega

theorem toGo_lt_of_spawn (held : r.Controlled width) (launching : r.launching = true)
    (holding : r.holding = true) :
    ({ r.put r.launched .spawned with holding := false, launched := r.launched + 1 } : Run P).toGo <
      r.toGo := by
  have step : Step [] r .launch _ _ := .spawn launching holding
  have inside : r.launched < r.seats.length := held.launched.length ▸ held.launched.room holding
  have here : seatAt (r.seats.set r.launched .spawned) r.launched = .spawned :=
    seatAt_set_self inside _
  have waits := (held.launched.waiting r.launched).mpr (Nat.le_refl _)
  have fewer : weigh Seat.toGo (r.seats.set r.launched .spawned) + 2 ≤ weigh Seat.toGo r.seats :=
    weigh_drop (step.length held) (fun j => (step.goes held j).toGo_le) (i := r.launched)
      (by rw [here, waits]; simp [Seat.toGo])
  simp only [toGo, duty, put, holding, Bool.not_true, Bool.not_false, Bool.toNat_true,
    Bool.toNat_false]
  omega

theorem seat_ne_reported (finding : Finding P) (report : Except String (Finding P)) :
    finding.seat ≠ .reported report := by
  unfold Finding.seat
  split <;> nofun

theorem shrinks (step : Step sources r m events next) (held : r.Controlled width)
    (moved : next ≠ r) : next.toGo < r.toGo := by
  have went : ∀ {i : Nat} {s t : Seat P}, seatAt r.seats i = t -> t ≠ .waiting ->
      next.seats = r.seats.set i s -> s ≠ t -> next.duty ≤ r.duty -> next.toGo < r.toGo :=
    fun seat taken => step.toGo_lt_of_seat held (lt_length_of_seatAt (by rwa [seat])) seat
  have idler := step.toGo_lt_of_duty held
  cases step with
  | idle => exact absurd rfl moved
  | release i seat => exact went seat (by simp) rfl (by simp) (Nat.le_refl _)
  | take permits launching empty unclosed more free => exact idler (by simp [duty, empty])
  | spawn launching holding => exact toGo_lt_of_spawn held launching holding
  | leave launching empty spent => exact idler (by simp [duty, launching])
  | call i seat => exact went seat (by simp) rfl (by simp) (Nat.le_refl _)
  | refuse i rest message phase mail seat =>
    exact went seat (by simp) rfl (by simp) (by simp [duty, phase, Phase.toGo, put])
  | settle i rest finding phase mail seat settled =>
    exact went seat (by simp) rfl (seat_ne_reported _ _) (by simp [duty, phase, Phase.toGo, put])
  | record i rest finding phase mail seat unsettled =>
    exact went seat (by simp) rfl (seat_ne_reported _ _) (Nat.le_refl _)
  | strayReport i rest phase mail stray =>
    obtain ⟨report, seat⟩ := (mail ▸ held.mailed).reported
    exact absurd seat (stray report)
  | desert phase mail silent => exact idler (by simp [duty, phase, Phase.toGo])
  | close failure phase => exact idler (by simp [duty, phase, Phase.toGo])
  | letGo failure phase gone => exact idler (by simp [duty, phase, Phase.toGo])
  | dispatch phase gone =>
    have reaping := r.reaping.toNat_lt
    exact idler (by simp [duty, phase, Phase.toGo]; omega)
  | reap m i rest mail calm =>
    obtain ⟨report, seat⟩ := (mail ▸ held.mailed).reported
    exact went seat (by simp) rfl (by simp) (Nat.le_refl _)
  | drained failure phase mail silent => exact idler (by simp [duty, phase, Phase.toGo])
  | reaped reaping mail silent => exact idler (by simp [duty, reaping])
  | collect dispatched harvests failure i rest harvest phase mail seat =>
    exact went seat (by simp) rfl (by simp) (by simp [duty, phase, Phase.toGo, put])
  | spoil dispatched harvests failure i rest message phase mail seat =>
    exact went seat (by simp) rfl (by simp) (by simp [duty, phase, Phase.toGo, put])
  | strayResult dispatched harvests failure i rest phase mail stray =>
    obtain ⟨result, seat⟩ := (mail ▸ held.mailed).fetched
    exact absurd seat (stray result)
  | fail dispatched harvests failure blamed phase mail quiet blame =>
    exact idler (by simp [duty, phase, Phase.toGo])
  | page dispatched harvests phase mail quiet complete => exact idler (by simp [duty, phase, Phase.toGo])
  | giveIn failure phase calm => exact idler (by simp [duty, phase, Phase.toGo])
  | loseProbe i seat lost => exact went seat (by simp) rfl (by simp) (Nat.le_refl _)
  | report i report seat reports listening =>
    exact went seat (by simp) rfl (by simp) (Nat.le_refl _)
  | missReport i seat reports deaf => exact went seat (by simp) rfl (by simp) (Nat.le_refl _)
  | bring dispatched harvests failure i payload result seat brings phase =>
    exact went seat (by simp) rfl (by simp) (Nat.le_refl _)
  | missResult i payload seat deaf => exact went seat (by simp) rfl (by simp) (Nat.le_refl _)
  | abandon early =>
    refine idler ?_
    obtain phase | ⟨failure, phase⟩ | ⟨failure, phase⟩ := early <;> simp [duty, phase, Phase.toGo]
  | abandonFetches dispatched harvests failure phase => exact idler (by simp [duty, phase, Phase.toGo])
  | abandonFailure failure phase => exact idler (by simp [duty, phase, Phase.toGo])

end Step

theorem record_reports (r : Run P) (i : Nat) (found : Bool) :
    (r.record i found).reports = r.reports := by
  unfold record
  dsimp only
  split <;> rfl

theorem receive_reports (r : Run P) (i : Nat) : (receive r i).reports = r.reports := by
  unfold receive
  split
  next => rfl
  next => exact record_reports _ _ _
  next => rfl

theorem reap?_ne {r next : Run P} {finish : Run P -> Run P} (went : r.reap? finish = some next)
    (finished : finish { r with listening := false } ≠ r) : next ≠ r := by
  unfold reap? at went
  split at went
  next i rest mail =>
    cases went
    intro same
    have reports : rest = r.reports := congrArg Run.reports same
    simp [mail] at reports
  next mail =>
    split at went
    next =>
      cases went
      exact finished
    next => cases went

theorem receive?_ne {r next : Run P} (phase : r.phase = .deciding) (went : r.receive? = some next) :
    next ≠ r := by
  unfold receive? at went
  split at went
  next i rest mail =>
    cases went
    intro same
    have reports := congrArg Run.reports same
    rw [receive_reports] at reports
    simp [mail] at reports
  next mail =>
    split at went
    next =>
      cases went
      intro same
      have closing : _ = r.phase := congrArg Run.phase same
      simp [phase, decide] at closing
    next => cases went

theorem collect?_ne {r next : Run P} {dispatched : List Nat} {harvests : List (Nat × Harvest)}
    {failure : Option Failure} (phase : r.phase = .fetching dispatched harvests failure)
    (went : r.collect? dispatched harvests failure = some next) : next ≠ r := by
  unfold collect? at went
  split at went
  next i rest mail =>
    have results : next.results = rest := by
      split at went <;> (cases went; rfl)
    rintro rfl
    simp [mail] at results
  next mail =>
    split at went
    next => cases went
    next =>
      cases went
      intro same
      have ended := congrArg Run.phase same
      unfold conclude at ended
      split at ended <;> simp [phase] at ended

theorem advance?_ne {r : Run P} {step : Run P × List (Event P)} (went : r.advance? = some step) :
    step.1 ≠ r := by
  have apart : ∀ {next : Run P}, next.phase ≠ r.phase -> next ≠ r := fun other same =>
    other (congrArg Run.phase same)
  unfold advance? at went
  split at went
  next phase =>
    obtain ⟨next, received, rfl⟩ := Option.map_eq_some_iff.mp went
    exact receive?_ne phase received
  next failure phase =>
    cases went
    exact apart (by simp [close, phase])
  next failure phase =>
    split at went
    next => cases went
    next =>
      cases went
      refine apart ?_
      cases failure <;> simp [proceed, dispatch, phase]
  next failure phase =>
    obtain ⟨next, reaped, rfl⟩ := Option.map_eq_some_iff.mp went
    exact reap?_ne reaped (apart (by simp [phase]))
  next dispatched harvests failure phase =>
    obtain ⟨next, collected, rfl⟩ := Option.map_eq_some_iff.mp went
    exact collect?_ne phase collected
  next failure phase =>
    split at went
    next => cases went
    next =>
      cases went
      exact apart (by simp [phase])
  next => cases went
  next => cases went

theorem release?_ne {r : Run P} {step : Run P × List (Event P)} (went : r.release? = some step) :
    step.1 ≠ r := by
  obtain ⟨i, first, rfl⟩ := Option.map_eq_some_iff.mp went
  obtain ⟨inside, freed, _⟩ := List.findIdx?_eq_some_iff_getElem.mp first
  intro same
  have seats : r.seats.set i .released = r.seats := congrArg Run.seats same
  have here := List.getElem_set_self (l := r.seats) (i := i) (a := .released) (by simpa using inside)
  simp only [seats] at here
  simp [here, Seat.isFreed] at freed

theorem reaper?_ne {r : Run P} {step : Run P × List (Event P)} (went : r.reaper? = some step) :
    step.1 ≠ r := by
  unfold reaper? at went
  split at went
  next reaping =>
    obtain ⟨next, reaped, rfl⟩ := Option.map_eq_some_iff.mp went
    refine reap?_ne reaped fun same => ?_
    have calm : false = r.reaping := congrArg Run.reaping same
    simp [reaping] at calm
  next => cases went

theorem call?_ne {r : Run P} {step : Run P × List (Event P)} (went : r.call? = some step) :
    step.1 ≠ r := by
  obtain ⟨i, first, rfl⟩ := Option.map_eq_some_iff.mp went
  obtain ⟨inside, spawned, _⟩ := List.findIdx?_eq_some_iff_getElem.mp first
  intro same
  have seats : r.seats.set i .probing = r.seats := congrArg Run.seats same
  have here := List.getElem_set_self (l := r.seats) (i := i) (a := .probing) (by simpa using inside)
  simp only [seats] at here
  simp [here, Seat.isSpawned] at spawned

theorem launch?_ne {r : Run P} {step : Run P × List (Event P)} (went : r.launch? = some step) :
    step.1 ≠ r := by
  have apart : ∀ {next : Run P}, next.holding ≠ r.holding -> next ≠ r := fun other same =>
    other (congrArg Run.holding same)
  unfold launch? at went
  by_cases launching : r.launching = true
  next =>
    simp only [launching, Bool.not_true, Bool.false_eq_true, if_false] at went
    split at went
    next holding =>
      cases went
      exact apart (by simp [holding])
    next empty =>
      split at went
      next =>
        cases went
        intro same
        have gone : false = r.launching := congrArg Run.launching same
        simp [launching] at gone
      next =>
        split at went
        next => cases went
        next permits free =>
          cases went
          exact apart (by simp [empty])
  next => simp [launching] at went

theorem next_ne {r : Run P} {step : Run P × List (Event P)} (went : r.next = some step) :
    step.1 ≠ r := by
  unfold next at went
  cases released : r.release? with
  | some first =>
    obtain rfl : first = step := by simpa [released] using went
    exact release?_ne released
  | none =>
    cases advanced : r.advance? with
    | some first =>
      obtain rfl : first = step := by simpa [released, advanced] using went
      exact advance?_ne advanced
    | none =>
      cases reaped : r.reaper? with
      | some first =>
        obtain rfl : first = step := by simpa [released, advanced, reaped] using went
        exact reaper?_ne reaped
      | none =>
        cases called : r.call? with
        | some first =>
          obtain rfl : first = step := by simpa [released, advanced, reaped, called] using went
          exact call?_ne called
        | none => exact launch?_ne (by simpa [released, advanced, reaped, called] using went)

theorem next_shrinks {width : Nat} {r : Run P} {step : Run P × List (Event P)}
    (held : r.Controlled width) (went : r.next = some step) :
    step.1.Controlled width ∧ step.1.toGo < r.toGo := by
  obtain ⟨m, _, rfl⟩ := next_move [] r step went
  have taken := move_step [] r m
  exact ⟨taken.controlled held, taken.shrinks held (next_ne went)⟩

theorem settleFrom_rests {width fuel : Nat} {r : Run P} (held : r.Controlled width)
    (enough : r.toGo ≤ fuel) (events : List (Event P)) :
    (settleFrom fuel r events).1.next = none := by
  induction fuel generalizing r events with
  | zero =>
    rw [settleFrom, ← Option.not_isSome_iff_eq_none, Option.isSome_iff_exists]
    rintro ⟨step, went⟩
    have less := (next_shrinks held went).2
    omega
  | succ fuel ih =>
    cases went : r.next with
    | none => simp [settleFrom, went]
    | some step =>
      obtain ⟨still, less⟩ := next_shrinks held went
      simpa [settleFrom, went] using ih still (by omega) (events ++ step.2)

theorem toGo_le_mostSteps (r : Run P) : r.toGo ≤ r.mostSteps := by
  have seats := weigh_le_mul (P := P) Seat.toGo_le r.seats
  have phase : r.phase.toGo ≤ 6 := by cases r.phase <;> simp [Phase.toGo]
  have launching := r.launching.toNat_lt
  have reaping := r.reaping.toNat_lt
  have empty := (!r.holding).toNat_lt
  simp only [toGo, duty, mostSteps]
  omega

theorem settle_rests {width : Nat} {r : Run P} (held : r.Controlled width) :
    r.settle.1.next = none :=
  settleFrom_rests held r.toGo_le_mostSteps []

end Run

end FleetSearch.Search
