import FleetSearch.Proofs.Search.Release

set_option autoImplicit false

namespace FleetSearch.Search

variable {P : Type}

def Seat.isWaiting : Seat P -> Bool
  | .waiting => true
  | _ => false

theorem countP_hasPermit (seats : List (Seat P)) :
    seats.countP Seat.hasPermit = seats.countP Seat.isSpawned + seats.countP Seat.isProbing := by
  induction seats with
  | nil => rfl
  | cons s rest ih =>
    cases s <;>
      simp [List.countP_cons, Seat.hasPermit, Seat.isSpawned, Seat.isProbing, ih] <;> omega

theorem countP_standing (seats : List (Seat P)) :
    seats.countP Seat.isWaiting + seats.countP Seat.hasPermit + seats.countP Seat.isEnded =
      seats.length := by
  induction seats with
  | nil => rfl
  | cons s rest ih =>
    cases s <;>
      simp [List.countP_cons, Seat.isWaiting, Seat.hasPermit, Seat.isEnded, ← ih] <;> omega

namespace Run

variable {width : Nat} {r : Run P}

theorem Controlled.none_waiting (held : r.Controlled width) (all : r.launched = r.names.length) :
    r.seats.countP Seat.isWaiting = 0 := by
  rw [List.countP_eq_zero]
  intro s member waiting
  obtain ⟨i, inside, here⟩ := List.mem_iff_getElem.mp member
  have seat : seatAt r.seats i = .waiting := by
    cases s <;> simp_all [Seat.isWaiting, seatAt]
  have late := (held.launched.waiting i).mp seat
  have length := held.launched.length
  omega

-- Nothing is left between the free permits and the probes that execute: the launcher has no permit
-- in its hand, and every worker has made its call.
theorem Controlled.calm (held : r.Controlled width) (settled : r.next = none) :
    r.holding = false ∧ r.seats.countP Seat.isSpawned = 0 := by
  obtain ⟨_, _, _, called, stuck⟩ := still_of_next settled
  refine ⟨?_, List.countP_eq_zero.mpr (by simpa using called_of_call? called)⟩
  cases launching : r.launching with
  | true => exact (permits_of_launch? stuck launching).1
  | false => exact (held.launched.leaves launching).1

theorem Controlled.busy (held : r.Controlled width) (settled : r.next = none)
    (unclosed : r.closed = false) :
    r.seats.countP Seat.isProbing = min width (r.names.length - r.seats.countP Seat.isEnded) := by
  obtain ⟨_, _, _, _, stuck⟩ := still_of_next settled
  obtain ⟨empty, called⟩ := held.calm settled
  have standing := countP_standing r.seats
  have budget := held.launched.budget
  have length := held.launched.length
  rw [countP_hasPermit, called] at standing budget
  simp only [empty, Bool.toNat_false] at budget
  cases launching : r.launching with
  | true =>
    have spent := (permits_of_launch? stuck launching).2.2.2
    omega
  | false =>
    rcases (held.launched.leaves launching).2 with closed | all
    · simp [unclosed] at closed
    · have none := held.none_waiting all
      omega

end Run

namespace Runs

end Runs

end FleetSearch.Search
