import FleetSearch.Search.Runs
import Mathlib.Data.List.Basic

set_option autoImplicit false

/-!
Schedules. A run goes on by moves that come in any order: its own task, its launcher, its reaper and
its workers each move from one place where they wait to the next, calls end, and whoever asked may
give up. A move that is not possible changes nothing, so every list of moves is a schedule, and what
a run does when it settles is one of them.
-/

namespace FleetSearch.Search

/-- A repository as a search meets it: how its probe ends, and its fetch for each payload. -/
structure Source (P : Type) where
  name : String
  probe : Ending (Finding P)
  fetch : P -> Ending Harvest

inductive Move where
  -- a worker whose gate is open gives its repository back
  | release (i : Nat)
  -- the task of the run, the reaper or the launcher goes on
  | advance
  | reap
  | launch
  -- a worker that was spawned makes its call
  | call (i : Nat)
  | endProbe (i : Nat)
  | endFetch (i : Nat)
  | abort
deriving DecidableEq

def Move.opening (count : Nat) : List Move :=
  (List.range count).flatMap fun i => [.launch, .launch, .call i]

def Move.isOwn : Move -> Bool
  | .endProbe _ => false
  | .endFetch _ => false
  | .abort => false
  | _ => true

variable {P : Type}

def probeAt (sources : List (Source P)) (i : Nat) : Ending (Finding P) :=
  (sources[i]?).elim .lost Source.probe

def fetchAt (sources : List (Source P)) (i : Nat) (payload : P) : Ending Harvest :=
  (sources[i]?).elim .lost fun source => source.fetch payload

namespace Run

def move (sources : List (Source P)) (r : Run P) : Move -> Run P × List (Event P)
  | .release i => if (r.seat i).isFreed then (r.put i .released, [.release i]) else (r, [])
  | .advance => r.advance?.getD (r, [])
  | .reap => r.reaper?.getD (r, [])
  | .launch => r.launch?.getD (r, [])
  | .call i => if (r.seat i).isSpawned then (r.put i .probing, [.probe i]) else (r, [])
  | .endProbe i => (r.endProbe i (probeAt sources i), [])
  | .endFetch i =>
    match r.seat i with
    | .fetching payload => (r.endFetch i (fetchAt sources i payload), [])
    | _ => (r, [])
  | .abort => (r.abort, [])

def play (sources : List (Source P)) (r : Run P) : List Move -> Run P × List (Event P)
  | [] => (r, [])
  | m :: rest =>
    let next := r.move sources m
    let last := next.1.play sources rest
    (last.1, next.2 ++ last.2)

theorem play_append (sources : List (Source P)) (r : Run P) (moves more : List Move) :
    r.play sources (moves ++ more) =
      (((r.play sources moves).1.play sources more).1,
        (r.play sources moves).2 ++ ((r.play sources moves).1.play sources more).2) := by
  induction moves generalizing r with
  | nil => rfl
  | cons m rest ih => simp [play, ih, List.append_assoc]

-- What a run does by itself is a move of its own.
theorem next_move (sources : List (Source P)) (r : Run P) (step : Run P × List (Event P))
    (went : r.next = some step) : ∃ m, m.isOwn = true ∧ r.move sources m = step := by
  unfold next at went
  cases released : r.release? with
  | some first =>
    have same : first = step := by simpa [released] using went
    subst same
    unfold release? at released
    obtain ⟨i, freed, rfl⟩ := Option.map_eq_some_iff.mp released
    obtain ⟨inside, vacant, _⟩ := List.findIdx?_eq_some_iff_getElem.mp freed
    refine ⟨.release i, rfl, ?_⟩
    simp [move, seat, List.getElem?_eq_getElem inside, vacant]
  | none =>
    cases advanced : r.advance? with
    | some first => exact ⟨.advance, rfl, by simp_all [move]⟩
    | none =>
      cases reaped : r.reaper? with
      | some first => exact ⟨.reap, rfl, by simp_all [move]⟩
      | none =>
        cases called : r.call? with
        | some first =>
          have same : first = step := by simpa [released, advanced, reaped, called] using went
          subst same
          unfold call? at called
          obtain ⟨i, spawned, rfl⟩ := Option.map_eq_some_iff.mp called
          obtain ⟨inside, due, _⟩ := List.findIdx?_eq_some_iff_getElem.mp spawned
          refine ⟨.call i, rfl, ?_⟩
          simp [move, seat, List.getElem?_eq_getElem inside, due]
        | none => exact ⟨.launch, rfl, by simp_all [move]⟩

theorem settleFrom_play (sources : List (Source P)) (fuel : Nat) (r : Run P)
    (events : List (Event P)) :
    ∃ moves, (∀ m ∈ moves, m.isOwn = true) ∧ settleFrom fuel r events =
      ((r.play sources moves).1, events ++ (r.play sources moves).2) := by
  induction fuel generalizing r events with
  | zero => exact ⟨[], nofun, by simp [settleFrom, play]⟩
  | succ fuel ih =>
    cases went : r.next with
    | none => exact ⟨[], nofun, by simp [settleFrom, went, play]⟩
    | some step =>
      obtain ⟨m, own, moved⟩ := next_move sources r step went
      obtain ⟨moves, others, settled⟩ := ih step.1 (events ++ step.2)
      refine ⟨m :: moves, List.forall_mem_cons.mpr ⟨own, others⟩, ?_⟩
      simp only [settleFrom, went, settled, play, moved, List.append_assoc]

theorem settle_own (sources : List (Source P)) (r : Run P) :
    ∃ moves, (∀ m ∈ moves, m.isOwn = true) ∧ r.settle = r.play sources moves := by
  obtain ⟨moves, own, settled⟩ := settleFrom_play sources r.mostSteps r []
  exact ⟨moves, own, by simpa [settle] using settled⟩

theorem settle_play (sources : List (Source P)) (r : Run P) :
    ∃ moves, .abort ∉ moves ∧ r.settle = r.play sources moves := by
  obtain ⟨moves, own, settled⟩ := settle_own sources r
  exact ⟨moves, fun member => Bool.false_ne_true (own .abort member), settled⟩

end Run

end FleetSearch.Search
