import FleetSearch.Text.Moment
import Mathlib.Algebra.GroupWithZero.Nat
import Mathlib.Data.List.Basic

set_option autoImplicit false

/-!
Every day has a date in the calendar, and the date counts back to the day.
-/

namespace FleetSearch.Text

theorem locate_spec (lengths : List Nat) (place : Nat) (inside : place < lengths.sum) :
    ∃ length, lengths[(locate lengths place).1]? = some length ∧
      (locate lengths place).2 < length ∧
      (lengths.take (locate lengths place).1).sum + (locate lengths place).2 = place := by
  induction lengths generalizing place with
  | nil => simp at inside
  | cons length rest ih =>
    rw [locate]
    by_cases here : place < length
    next =>
      rw [if_pos here]
      exact ⟨length, rfl, here, by simp⟩
    next =>
      rw [List.sum_cons] at inside
      obtain ⟨own, there, before, total⟩ := ih (place - length) (by omega)
      rw [if_neg here]
      refine ⟨own, there, before, ?_⟩
      rw [List.take_succ_cons, List.sum_cons]
      omega

namespace Date

theorem sum_monthLengths (year : Nat) : (monthLengths year).sum = yearLength year := by
  unfold monthLengths yearLength
  split <;> rfl

theorem length_le_yearLengths (count : Nat) : 365 * count ≤ (yearLengths count).sum := by
  induction count with
  | zero => exact Nat.zero_le _
  | succ count ih =>
    have last : 365 ≤ yearLength (1970 + count) := by
      unfold yearLength
      split <;> decide
    rw [yearLengths, List.range_succ, List.map_append, List.sum_append, ← yearLengths]
    simp only [List.map_cons, List.map_nil, List.sum_cons, List.sum_nil]
    omega

theorem take_yearLengths {i count : Nat} (inside : i ≤ count) :
    (yearLengths count).take i = yearLengths i := by
  rw [yearLengths, ← List.map_take, List.take_range, Nat.min_eq_left inside, yearLengths]

def toDay (d : Date) : Nat :=
  (yearLengths (d.year - 1970)).sum + ((monthLengths d.year).take (d.month - 1)).sum + (d.day - 1)

def IsValid (d : Date) : Prop :=
  1970 ≤ d.year ∧ 1 ≤ d.month ∧ 1 ≤ d.day ∧
    ∃ length, (monthLengths d.year)[d.month - 1]? = some length ∧ d.day ≤ length

theorem toDay_ofDay (n : Nat) : (ofDay n).IsValid ∧ (ofDay n).toDay = n := by
  have enough := length_le_yearLengths (n / 365 + 1)
  obtain ⟨length, there, rest, years⟩ :=
    locate_spec (yearLengths (n / 365 + 1)) n (by omega)
  obtain ⟨inside, own⟩ := List.getElem?_eq_some_iff.mp there
  generalize spot : locate (yearLengths (n / 365 + 1)) n = found at there rest years inside own
  have within : found.2 < (monthLengths (1970 + found.1)).sum := by
    rw [sum_monthLengths]
    simpa [yearLengths, ← own] using rest
  obtain ⟨days, month, below, months⟩ := locate_spec _ found.2 within
  have date : ofDay n =
      { year := 1970 + found.1
        month := (locate (monthLengths (1970 + found.1)) found.2).1 + 1
        day := (locate (monthLengths (1970 + found.1)) found.2).2 + 1 } := by
    rw [ofDay, spot]
  rw [take_yearLengths (Nat.le_of_lt (by simpa [yearLengths] using inside))] at years
  rw [date]
  refine ⟨⟨Nat.le_add_right .., Nat.le_add_left .., Nat.le_add_left .., days, month, below⟩, ?_⟩
  simp only [toDay, Nat.add_sub_cancel, Nat.add_sub_cancel_left]
  omega

end Date

example : momentText 1709210096007000000 = "2024-02-29T12:34:56.007Z" := by decide +kernel

end FleetSearch.Text
