import FleetSearch.Checkout.Grep
import Mathlib.Data.List.Basic

set_option autoImplicit false

namespace FleetSearch.Checkout

open FleetSearch.Search FleetSearch.Text

def Fits (p : Pattern) (context number : Nat) (lines : List (List Char)) : Prop :=
  ∀ (i : Nat) (line : List Char), lines[i]? = some line -> p.occursIn line = true ->
    number + i + context < Count.bound

theorem fits_cons (p : Pattern) (context number : Nat) (line : List Char)
    (rest : List (List Char)) :
    Fits p context number (line :: rest) ↔
      (p.occursIn line = true -> number + context < Count.bound) ∧
        Fits p context (number + 1) rest := by
  constructor
  · intro fits
    refine ⟨fun occurs => fits 0 line rfl occurs, fun i other there occurs => ?_⟩
    have room := fits (i + 1) other there occurs
    omega
  · rintro ⟨first, later⟩ i other there occurs
    cases i with
    | zero =>
      obtain rfl : line = other := by simpa using there
      exact first occurs
    | succ i =>
      have room := later i other there occurs
      omega

theorem fits_of_few (p : Pattern) {context number : Nat} {lines : List (List Char)}
    (few : number + lines.length + context ≤ Count.bound) : Fits p context number lines := by
  intro i line there _
  obtain ⟨inside, _⟩ := List.getElem?_eq_some_iff.mp there
  omega

theorem grepFrom_spec (p : Pattern) (context : Nat) (before : List (List Char)) (number : Nat)
    (lines : List (List Char)) :
    match grepFrom p context before number lines with
    | .ok found =>
      Fits p context number lines ∧
        found.map LineMatch.line = (lines.filter p.occursIn).map String.ofList
    | .error _ => ¬ Fits p context number lines := by
  induction lines generalizing before number with
  | nil => exact ⟨fun i line there => by simp at there, rfl⟩
  | cons line rest ih =>
    have later := ih (line :: before) (number + 1)
    rw [grepFrom]
    by_cases occurs : p.occursIn line = true
    next =>
      rw [if_pos occurs]
      by_cases long : Count.bound ≤ number + context
      next =>
        rw [if_pos long]
        intro fits
        have room := ((fits_cons ..).mp fits).1 occurs
        omega
      next =>
        rw [if_neg long]
        cases went : grepFrom p context (line :: before) (number + 1) rest with
        | error fault =>
          rw [went] at later
          exact fun fits => later ((fits_cons ..).mp fits).2
        | ok found =>
          rw [went] at later
          refine ⟨(fits_cons ..).mpr ⟨fun _ => by omega, later.1⟩, ?_⟩
          simp [occurs, later.2]
    next =>
      rw [if_neg occurs]
      cases went : grepFrom p context (line :: before) (number + 1) rest with
      | error fault =>
        rw [went] at later
        exact fun fits => later ((fits_cons ..).mp fits).2
      | ok found =>
        rw [went] at later
        refine ⟨(fits_cons ..).mpr ⟨fun yes => absurd yes occurs, later.1⟩, ?_⟩
        simp [occurs, later.2]

theorem grep_ok {p : Pattern} {context : Nat} {text : List Char} {found : List LineMatch}
    (went : grep p context text = .ok found) :
    Fits p context 1 (lines text) ∧
      found.map LineMatch.line = ((lines text).filter p.occursIn).map String.ofList := by
  have spec := grepFrom_spec p context [] 1 (lines text)
  rwa [show grepFrom p context [] 1 (lines text) = .ok found from went] at spec

theorem grep_isEmpty {p : Pattern} {context : Nat} {text : List Char} {found : List LineMatch}
    (went : grep p context text = .ok found) :
    found.isEmpty = !(lines text).any p.occursIn := by
  have same := congrArg List.isEmpty (grep_ok went).2
  rw [List.isEmpty_map, List.isEmpty_map] at same
  rw [same, Bool.eq_iff_iff]
  simp [List.filter_eq_nil_iff]

theorem grep_error {p : Pattern} {context : Nat} {text : List Char} {fault : GrepFault}
    (failed : grep p context text = .error fault) : ¬ Fits p context 1 (lines text) := by
  have spec := grepFrom_spec p context [] 1 (lines text)
  rwa [show grepFrom p context [] 1 (lines text) = .error fault from failed] at spec

end FleetSearch.Checkout
