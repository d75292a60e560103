import FleetSearch.Proofs.Search.Confluence

set_option autoImplicit false

namespace FleetSearch.Search.Cutoff

structure Bounded (c : Cutoff) : Prop where
  room : c.found ≤ c.limit
  counted : c.found ≤ c.firstOpen
  inside : c.firstOpen ≤ c.answers.length
  answered : ∀ i < c.firstOpen, c.isAnswered i = true

structure Grows (c d : Cutoff) : Prop where
  firstOpen : c.firstOpen ≤ d.firstOpen
  found : c.found ≤ d.found
  settled : c.settled = true -> d.firstOpen = c.firstOpen ∧ d.found = c.found ∧ d.settled = true

theorem start_bounded (count limit : Nat) : (start count limit).Bounded :=
  ⟨Nat.zero_le _, Nat.le_refl _, Nat.zero_le _, nofun⟩

theorem isAnswered_set (c : Cutoff) (index : Nat) (found : Bool) {i : Nat}
    (answered : c.isAnswered i = true) :
    ({ c with answers := c.answers.set index (some found) } : Cutoff).isAnswered i = true := by
  obtain ⟨answer, told⟩ := (isAnswered_iff c i).mp answered
  rw [isAnswered_iff, List.getElem?_set]
  split
  next => simp [(List.getElem?_eq_some_iff.mp told).1, *]
  next => exact ⟨answer, told⟩

theorem advance_bounded {c : Cutoff} (bounded : c.Bounded) : c.advance.Bounded := by
  obtain ⟨passed, taken, far, counted, _⟩ :=
    walk_passed c.limit (c.answers.drop c.firstOpen) c.firstOpen c.found
  have room := walk_found_le c.limit (c.answers.drop c.firstOpen) c.firstOpen c.found bounded.room
  have hits : passed.count true ≤ passed.length := List.count_le_length
  have before := bounded.counted
  rw [far, Nat.add_sub_cancel_left] at taken
  have length : passed.length ≤ c.answers.length - c.firstOpen := by
    have lengths := congrArg List.length taken
    simp at lengths
    omega
  have inside := bounded.inside
  refine ⟨room, ?_, ?_, fun i below => ?_⟩
  · show (walk _ _ _ _).2 ≤ (walk _ _ _ _).1
    omega
  · show (walk _ _ _ _).1 ≤ c.answers.length
    omega
  · have below : i < c.firstOpen + passed.length := far ▸ below
    by_cases old : i < c.firstOpen
    next => exact bounded.answered i old
    next =>
      -- the walk has passed this place just now
      obtain ⟨k, rfl⟩ := Nat.exists_eq_add_of_le (Nat.le_of_not_lt old)
      have place : k < passed.length := by omega
      have told := congrArg (fun answers => answers[k]?) taken
      simp only [List.getElem?_map, List.getElem?_take_of_lt place, List.getElem?_drop,
        List.getElem?_eq_getElem place, Option.map_some] at told
      exact (isAnswered_iff c _).mpr ⟨_, told.symm⟩

theorem record_bounded {c : Cutoff} (bounded : c.Bounded) (index : Nat) (found : Bool) :
    (c.record index found).Bounded := by
  refine advance_bounded ⟨bounded.room, bounded.counted, ?_, fun i below => ?_⟩
  · simpa using bounded.inside
  · exact isAnswered_set c index found (bounded.answered i below)

theorem recordAll_bounded {c : Cutoff} (bounded : c.Bounded) (records : List (Nat × Bool)) :
    (c.recordAll records).Bounded := by
  induction records generalizing c with
  | nil => exact bounded
  | cons r rest ih => exact ih (record_bounded bounded r.1 r.2)

theorem advance_of_settled {c : Cutoff} (settled : c.settled = true) : c.advance = c := by
  have stays : walk c.limit (c.answers.drop c.firstOpen) c.firstOpen c.found =
      (c.firstOpen, c.found) := by
    simp only [Cutoff.settled, Bool.or_eq_true, decide_eq_true_eq, beq_iff_eq] at settled
    rcases settled with full | ended
    · exact walk_full _ _ _ _ full
    · simp [ended, walk]
  simp [advance, stays]

theorem Grows.trans {c d e : Cutoff} (first : c.Grows d) (second : d.Grows e) : c.Grows e where
  firstOpen := Nat.le_trans first.firstOpen second.firstOpen
  found := Nat.le_trans first.found second.found
  settled := fun settled => by
    obtain ⟨place, hits, still⟩ := first.settled settled
    obtain ⟨last, all, ended⟩ := second.settled still
    exact ⟨last.trans place, all.trans hits, ended⟩

theorem advance_grows (c : Cutoff) : c.Grows c.advance := by
  obtain ⟨passed, _, far, counted, _⟩ :=
    walk_passed c.limit (c.answers.drop c.firstOpen) c.firstOpen c.found
  refine ⟨?_, ?_, fun settled => ?_⟩
  · exact Nat.le.intro far.symm
  · exact Nat.le.intro counted.symm
  · rw [advance_of_settled settled]
    exact ⟨rfl, rfl, settled⟩

theorem record_grows (c : Cutoff) (index : Nat) (found : Bool) : c.Grows (c.record index found) := by
  -- the answer itself moves nothing, and the list of answers stays as long as it is
  have answered : c.Grows { c with answers := c.answers.set index (some found) } :=
    ⟨Nat.le_refl _, Nat.le_refl _, fun settled =>
      ⟨rfl, rfl, by simpa [Cutoff.settled] using settled⟩⟩
  exact answered.trans (advance_grows _)

theorem recordAll_grows (c : Cutoff) (records : List (Nat × Bool)) :
    c.Grows (c.recordAll records) := by
  induction records generalizing c with
  | nil => exact ⟨Nat.le_refl _, Nat.le_refl _, fun settled => ⟨rfl, rfl, settled⟩⟩
  | cons r rest ih => exact (record_grows c r.1 r.2).trans (ih _)

/-- After any answers the cutoff lies within the range and within what it has counted, all places
before it have an answer, and it never goes back; what a record tells is where it leaves the cutoff;
and a settled cutoff stays where it is for good. -/
theorem records_grow (count limit : Nat) (records more : List (Nat × Bool)) (index : Nat)
    (found : Bool) :
    let c := (start count limit).recordAll records
    let d := c.recordAll more
    let told := c.tell index found
    (c.firstOpen ≤ d.firstOpen ∧ c.found ≤ d.found) ∧
      (c.found ≤ limit ∧ c.found ≤ c.firstOpen ∧ c.firstOpen ≤ count) ∧
      (∀ i < c.firstOpen, c.isAnswered i = true) ∧
      (told.2 = c.record index found ∧ told.1 = (told.2.firstOpen, told.2.found)) ∧
      (c.settled = true ->
        d.firstOpen = c.firstOpen ∧ d.found = c.found ∧ d.settled = true) := by
  intro c d told
  have grows : c.Grows d := recordAll_grows c more
  have bounded : c.Bounded := recordAll_bounded (start_bounded count limit) records
  obtain ⟨sameLimit, sameLength⟩ := recordAll_shape (start count limit) records
  have room := bounded.room
  have inside := bounded.inside
  rw [sameLimit] at room
  rw [sameLength, start, List.length_replicate] at inside
  exact ⟨⟨grows.firstOpen, grows.found⟩, ⟨room, bounded.counted, inside⟩, bounded.answered,
    ⟨rfl, rfl⟩, grows.settled⟩

-- Two matches fill the page and are then taken back, and a place past the end is recorded; the
-- cutoff counts them all the same.
theorem takenBack_counted :
    let c := (start 4 2).recordAll [(2, true), (0, true), (0, false), (9, true), (1, true)]
    let d := c.recordAll [(1, false), (3, true)]
    c.settled = true ∧ d.firstOpen = 2 ∧ d.found = 2 ∧ d.settled = true ∧ d.hits = [] := by
  intro c d
  have settled : c.settled = true := by decide
  obtain ⟨place, counted, still⟩ := (records_grow 4 2
    [(2, true), (0, true), (0, false), (9, true), (1, true)] [(1, false), (3, true)] 3 true).2.2.2.2
    settled
  exact ⟨settled, place.trans (by decide), counted.trans (by decide), still, by decide⟩

end FleetSearch.Search.Cutoff
