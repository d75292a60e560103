import FleetSearch.Proofs.Search.Budget
import FleetSearch.Proofs.Search.Receipts

set_option autoImplicit false

/-!
The probes that a run starts. The launcher takes permits for the first repositories of its range, in
order, and spawns a worker with each. A page that is settled or a call that has failed closes the
limiter, and a closed limiter gives no permit; so no probe is started from then on, though the worker
of the last one may still have to be spawned. A page counts every one of them, those that end later
included.
-/

namespace FleetSearch.Search

variable {P : Type}

namespace Run

def spawns (r : Run P) : Move -> List Nat
  | .launch => if r.launching && r.holding then [r.launched] else []
  | _ => []

-- the repository for which a move of the launcher takes a permit
def takes (r : Run P) : Move -> List Nat
  | .launch => if r.launch?.any fun step => step.1.holding then [r.launched] else []
  | _ => []

/-- The repositories the launcher has a permit for or has spawned a worker for. It spawns with each
permit that it takes, and nothing keeps it from that. -/
def taken (r : Run P) : Nat :=
  r.launched + if r.holding then 1 else 0

namespace Step

variable {sources : List (Source P)} {r next : Run P} {m : Move} {events : List (Event P)}

theorem closes (step : Step sources r m events next)
    (closes : r.cutoff.settled = true -> r.closed = true ∨ r.phase = .decided none)
    (settled : next.cutoff.settled = true) : next.closed = true ∨ next.phase = .decided none := by
  cases step with
  | settle => exact .inr rfl
  | close => exact .inl rfl
  | record i rest finding phase mail seat unsettled =>
    exact absurd settled (by simpa using unsettled)
  | idle | release | take | spawn | leave | call | reap | reaped | loseProbe | report | missReport
    | missResult => exact closes settled
  | abandon early =>
    refine .inl ((closes settled).resolve_right fun decided => ?_)
    obtain phase | ⟨_, phase⟩ | ⟨_, phase⟩ := early <;> simp [phase] at decided
  | _ => exact .inl ((closes settled).resolve_right (by simp_all))

end Step

namespace Lawful

variable {sources : List (Source P)} {width : Nat} {r : Run P}

theorem firstOpen_le (lawful : r.Lawful sources width) : r.cutoff.firstOpen ≤ r.launched := by
  by_contra beyond
  have answered := lawful.decided.walked.answered (Nat.lt_of_not_le beyond)
  have waiting := (lawful.controlled.launched.waiting r.launched).mpr (Nat.le_refl _)
  have unanswered := lawful.decided.opened r.launched (by rw [waiting]; rfl)
  simp [answered] at unanswered

theorem room (lawful : r.Lawful sources width) : r.taken ≤ sources.length := by
  have launched := lawful.controlled.launched
  rw [← lawful.length, taken]
  split
  next holding => exact launched.room holding
  next => exact launched.most

end Lawful

end Run

namespace Runs

def spawned (sources : Nat -> List (Source P)) (maxProbes nextLimit k : Nat) (turns : List Turn) :
    List Nat :=
  (idle maxProbes nextLimit : Runs P).tally sources (fun _ => Run.spawns) k turns

-- the repositories for which the launcher of run `k` has taken a permit
def taken (sources : Nat -> List (Source P)) (maxProbes nextLimit k : Nat) (turns : List Turn) :
    List Nat :=
  (idle maxProbes nextLimit : Runs P).tally sources (fun _ => Run.takes) k turns

end Runs

end FleetSearch.Search
