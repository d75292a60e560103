import FleetSearch.Search.Cutoff
import Mathlib.Data.List.Basic

set_option autoImplicit false

namespace FleetSearch.Search

/-- The place just after the match that fills a page of `limit`, or the end if there are fewer. -/
def cutAfter : (limit : Nat) -> List Bool -> Nat
  | 0, _ => 0
  | _ + 1, [] => 0
  | limit + 1, found :: rest => cutAfter (if found then limit else limit + 1) rest + 1

theorem cutAfter_le (limit : Nat) (flags : List Bool) : cutAfter limit flags ≤ flags.length := by
  induction flags generalizing limit with
  | nil => cases limit <;> simp [cutAfter]
  | cons found rest ih =>
    cases limit with
    | zero => simp [cutAfter]
    | succ limit =>
      have below := ih (if found then limit else limit + 1)
      simp only [cutAfter, List.length_cons]
      omega

theorem count_take_cutAfter (limit : Nat) (flags : List Bool) :
    (flags.take (cutAfter limit flags)).count true = min limit (flags.count true) := by
  induction flags generalizing limit with
  | nil => cases limit <;> simp [cutAfter]
  | cons found rest ih =>
    cases limit with
    | zero => simp [cutAfter]
    | succ limit =>
      have counted := ih (if found then limit else limit + 1)
      cases found <;> simp_all [cutAfter]

theorem cutAfter_pos {limit : Nat} {flags : List Bool} (asked : 0 < limit)
    (nonempty : 0 < flags.length) : 0 < cutAfter limit flags := by
  cases limit with
  | zero => cases asked
  | succ limit =>
    cases flags with
    | nil => cases nonempty
    | cons found rest => simp [cutAfter]

theorem count_take_of_cutAfter_lt {limit : Nat} {flags : List Bool}
    (inside : cutAfter limit flags < flags.length) :
    (flags.take (cutAfter limit flags)).count true = limit := by
  rw [count_take_cutAfter]
  refine Nat.min_eq_left ?_
  induction flags generalizing limit with
  | nil => simp at inside
  | cons found rest ih =>
    cases limit with
    | zero => exact Nat.zero_le _
    | succ limit =>
      have enough := @ih (if found then limit else limit + 1) (by simpa [cutAfter] using inside)
      cases found <;> simp_all

namespace Cutoff

theorem walk_start_le (limit : Nat) (rest : List (Option Bool)) (firstOpen found : Nat) :
    firstOpen ≤ (walk limit rest firstOpen found).1 := by
  induction rest generalizing firstOpen found with
  | nil => simp [walk]
  | cons answer rest ih =>
    cases answer with
    | none => simp [walk]
    | some answer =>
      by_cases room : found < limit
      next =>
        have later := ih (firstOpen + 1) (if answer then found + 1 else found)
        simp only [walk, if_pos room]
        omega
      next => simp [walk, room]

theorem walk_found_le (limit : Nat) (rest : List (Option Bool)) (firstOpen found : Nat)
    (room : found ≤ limit) : (walk limit rest firstOpen found).2 ≤ limit := by
  induction rest generalizing firstOpen found with
  | nil => simpa [walk] using room
  | cons answer rest ih =>
    cases answer with
    | none => simpa [walk] using room
    | some answer =>
      by_cases more : found < limit
      next =>
        have fits : (if answer then found + 1 else found) ≤ limit := by
          cases answer <;> simp <;> omega
        simpa [walk, more] using ih (firstOpen + 1) _ fits
      next => simpa [walk, more] using room

theorem walk_resume (limit : Nat) (rest other : List (Option Bool)) (firstOpen found : Nat)
    (same : other.take ((walk limit rest firstOpen found).1 - firstOpen) =
      rest.take ((walk limit rest firstOpen found).1 - firstOpen)) :
    walk limit other firstOpen found =
      walk limit (other.drop ((walk limit rest firstOpen found).1 - firstOpen))
        (walk limit rest firstOpen found).1 (walk limit rest firstOpen found).2 := by
  induction rest generalizing other firstOpen found with
  | nil => simp [walk]
  | cons answer rest ih =>
    cases answer with
    | none => simp [walk]
    | some answer =>
      by_cases room : found < limit
      next =>
        have step : walk limit (some answer :: rest) firstOpen found =
            walk limit rest (firstOpen + 1) (if answer then found + 1 else found) := by
          simp [walk, room]
        rw [step] at same ⊢
        have later := walk_start_le limit rest (firstOpen + 1) (if answer then found + 1 else found)
        obtain ⟨k, far⟩ := Nat.exists_eq_add_of_le later
        have ahead : (walk limit rest (firstOpen + 1) (if answer then found + 1 else found)).1
            - firstOpen = k + 1 := by omega
        have behind : (walk limit rest (firstOpen + 1) (if answer then found + 1 else found)).1
            - (firstOpen + 1) = k := by omega
        rw [ahead] at same ⊢
        cases other with
        | nil => simp at same
        | cons head tail =>
          simp only [List.take_succ_cons, List.cons.injEq] at same
          obtain ⟨rfl, same⟩ := same
          have resumed := ih tail (firstOpen + 1) (if answer then found + 1 else found)
            (by rw [behind]; exact same)
          rw [behind] at resumed
          simpa [walk, room] using resumed
      next => simp [walk, room]

def Walked (c : Cutoff) : Prop :=
  walk c.limit c.answers 0 0 = (c.firstOpen, c.found)

theorem start_walked (count limit : Nat) : (start count limit).Walked := by
  cases count <;> simp [Walked, start, walk, List.replicate_succ]

theorem record_walked (c : Cutoff) (index : Nat) (found : Bool) (walked : c.Walked)
    (behind : c.firstOpen ≤ index) : (c.record index found).Walked := by
  have same : (c.answers.set index (some found)).take c.firstOpen = c.answers.take c.firstOpen :=
    List.take_set_of_le behind
  have resumed := walk_resume c.limit c.answers (c.answers.set index (some found)) 0 0
    (by rw [walked]; simpa using same)
  rw [walked] at resumed
  simpa [Walked, record, advance] using resumed

theorem walk_passed (limit : Nat) (rest : List (Option Bool)) (firstOpen found : Nat) :
    ∃ passed : List Bool,
      passed.map some = rest.take ((walk limit rest firstOpen found).1 - firstOpen) ∧
        (walk limit rest firstOpen found).1 = firstOpen + passed.length ∧
        (walk limit rest firstOpen found).2 = found + passed.count true ∧
        (limit ≤ (walk limit rest firstOpen found).2 ∨ passed.length = rest.length ∨
          rest[passed.length]? = some none) := by
  induction rest generalizing firstOpen found with
  | nil => exact ⟨[], by simp [walk]⟩
  | cons answer rest ih =>
    cases answer with
    | none => exact ⟨[], by simp [walk]⟩
    | some answer =>
      by_cases room : found < limit
      next =>
        obtain ⟨passed, taken, far, counted, stopped⟩ :=
          ih (firstOpen + 1) (if answer then found + 1 else found)
        have ahead : firstOpen + 1 + passed.length - (firstOpen + 1) = passed.length := by omega
        rw [far, ahead] at taken
        refine ⟨answer :: passed, ?_, ?_, ?_, ?_⟩
        · have whole : firstOpen + 1 + passed.length - firstOpen = passed.length + 1 := by omega
          simp [walk, room, far, whole, taken]
        · simp only [walk, if_pos room, far, List.length_cons]
          omega
        · simp only [walk, if_pos room, counted]
          cases answer
          next => simp
          next =>
            simp
            omega
        · simpa [walk, room] using stopped
      next => exact ⟨[], by simp [walk, room]; omega⟩

theorem walk_cut (limit : Nat) (rest : List (Option Bool)) (flags : List Bool)
    (firstOpen found : Nat) (length : flags.length = rest.length)
    (told : ∀ (i : Nat) (answer : Bool), rest[i]? = some (some answer) -> flags[i]? = some answer)
    (settled : limit ≤ (walk limit rest firstOpen found).2 ∨
      (walk limit rest firstOpen found).1 = firstOpen + rest.length) :
    (walk limit rest firstOpen found).1 = firstOpen + cutAfter (limit - found) flags := by
  induction rest generalizing flags firstOpen found with
  | nil =>
    obtain rfl := List.length_eq_zero_iff.mp length
    cases limit - found <;> simp [walk, cutAfter]
  | cons answer rest ih =>
    cases answer with
    | none =>
      have full : limit ≤ found := by
        rcases settled with full | ended
        · exact full
        · simp [walk] at ended
      simp [walk, Nat.sub_eq_zero_of_le full, cutAfter]
    | some answer =>
      by_cases room : found < limit
      next =>
        cases flags with
        | nil => simp at length
        | cons flag flags =>
          have same : flag = answer := by simpa using told 0 answer rfl
          subst same
          have further := ih flags (firstOpen + 1) (if flag then found + 1 else found)
            (by simpa using length) (fun i answer known => told (i + 1) answer known)
            (by
              simp only [walk, if_pos room, List.length_cons] at settled
              omega)
          obtain ⟨more, left⟩ := Nat.exists_eq_add_of_lt room
          have remaining : limit - found = more + 1 := by omega
          have cut : limit - (if flag then found + 1 else found) =
              if flag then more else more + 1 := by cases flag <;> simp <;> omega
          simp only [walk, if_pos room, further, remaining, cut, cutAfter]
          omega
      next =>
        have full : limit ≤ found := Nat.le_of_not_lt room
        simp [walk, room, Nat.sub_eq_zero_of_le full, cutAfter]

theorem isAnswered_iff (c : Cutoff) (i : Nat) :
    c.isAnswered i = true ↔ ∃ answer, c.answers[i]? = some (some answer) := by
  unfold isAnswered
  split <;> simp_all

theorem isAnswered_record (c : Cutoff) (i : Nat) (found : Bool) (inside : i < c.answers.length)
    (j : Nat) : (c.record i found).isAnswered j = (Decidable.decide (i = j) || c.isAnswered j) := by
  by_cases same : i = j
  next =>
    subst same
    simp [Cutoff.isAnswered, Cutoff.record, Cutoff.advance, inside]
  next => simp [Cutoff.isAnswered, Cutoff.record, Cutoff.advance, same]

def hits (c : Cutoff) : List Nat :=
  (List.range c.firstOpen).filter fun i => c.answers[i]? == some (some true)

namespace Walked

variable {c : Cutoff}

theorem passed (walked : c.Walked) :
    ∃ passed : List Bool, passed.map some = c.answers.take c.firstOpen ∧
      c.firstOpen = passed.length ∧ c.found = passed.count true := by
  obtain ⟨passed, taken, far, counted, _⟩ := walk_passed c.limit c.answers 0 0
  rw [walked] at taken far counted
  exact ⟨passed, by simpa using taken, by simpa using far, by simpa using counted⟩

theorem answered (walked : c.Walked) {i : Nat} (below : i < c.firstOpen) :
    c.isAnswered i = true := by
  obtain ⟨passed, taken, far, _⟩ := walked.passed
  have same : (c.answers.take c.firstOpen)[i]? = c.answers[i]? := List.getElem?_take_of_lt below
  rw [← taken, List.getElem?_map, List.getElem?_eq_getElem (by omega)] at same
  exact (isAnswered_iff c i).mpr ⟨_, same.symm⟩

theorem inside (walked : c.Walked) : c.firstOpen ≤ c.answers.length := by
  obtain ⟨passed, taken, far, _⟩ := walked.passed
  have lengths := congrArg List.length taken
  simp at lengths
  omega

theorem stops (walked : c.Walked) (unsettled : c.settled = false) :
    c.firstOpen < c.answers.length ∧ c.isAnswered c.firstOpen = false := by
  obtain ⟨passed, _, far, _, stopped⟩ := walk_passed c.limit c.answers 0 0
  rw [walked] at far stopped
  simp only [Nat.zero_add] at far
  simp only [settled, Bool.or_eq_false_iff, decide_eq_false_iff_not,
    beq_eq_false_iff_ne] at unsettled
  have inside := walked.inside
  rcases stopped with full | ended | unanswered
  · exact absurd full unsettled.1
  · omega
  · refine ⟨by omega, ?_⟩
    rw [isAnswered, far, unanswered]

theorem found_le (walked : c.Walked) : c.found ≤ c.limit := by
  have room := walk_found_le c.limit c.answers 0 0 (Nat.zero_le _)
  rwa [walked] at room

theorem length_hits (walked : c.Walked) : c.hits.length = c.found := by
  obtain ⟨passed, taken, far, counted⟩ := walked.passed
  have same : c.hits = (List.range passed.length).filter fun i => passed[i]? == some true := by
    rw [hits, far]
    apply List.filter_congr
    intro i member
    have below : i < passed.length := List.mem_range.mp member
    have place : (c.answers.take c.firstOpen)[i]? = c.answers[i]? :=
      List.getElem?_take_of_lt (far ▸ below)
    rw [← place, ← taken]
    simp [below]
  rw [same, counted]
  clear taken far counted same
  induction passed with
  | nil => rfl
  | cons found rest ih =>
    rw [List.length_cons, List.range_succ_eq_map, List.filter_cons, List.filter_map]
    cases found <;> simpa [Function.comp_def] using ih

theorem cut (walked : c.Walked) (settled : c.settled = true) (flags : List Bool)
    (length : flags.length = c.answers.length)
    (told : ∀ (i : Nat) (answer : Bool),
      c.answers[i]? = some (some answer) -> flags[i]? = some answer) :
    c.firstOpen = cutAfter c.limit flags := by
  have ended : c.limit ≤ c.found ∨ c.firstOpen = c.answers.length := by
    simpa [Cutoff.settled] using settled
  have cut := walk_cut c.limit c.answers flags 0 0 length told
  rw [walked] at cut
  simpa using cut (by simpa using ended)

end Walked

end Cutoff

end FleetSearch.Search
