import FleetSearch.Proofs.Search.Cutoff

set_option autoImplicit false

namespace FleetSearch.Search

def firstGap (count : Nat) (records : List (Nat × Bool)) : Nat :=
  (List.range count).findIdx fun i => i ∉ records.map Prod.fst

def leadingHits (count : Nat) (records : List (Nat × Bool)) : List Nat :=
  (List.range (firstGap count records)).filter fun i => (i, true) ∈ records

def fullAfter : (limit : Nat) -> (hits : List Nat) -> Option Nat
  | 0, _ => some 0
  | limit + 1, hits => hits[limit]?.map (· + 1)

section

variable {count i : Nat} {records : List (Nat × Bool)}

theorem firstGap_le (count : Nat) (records : List (Nat × Bool)) :
    firstGap count records ≤ count := by
  have short : firstGap count records ≤ (List.range count).length := List.findIdx_le_length
  rwa [List.length_range] at short

theorem firstGap_open (inside : firstGap count records < count) :
    firstGap count records ∉ records.map Prod.fst := by
  have within : firstGap count records < (List.range count).length := by
    rwa [List.length_range]
  have missing := of_decide_eq_true (List.findIdx_getElem (w := within))
  have place : (List.range count)[firstGap count records] = firstGap count records :=
    List.getElem_range _
  exact fun listed => missing (place.symm ▸ listed)

theorem recorded_of_lt_firstGap (before : i < firstGap count records) :
    i ∈ records.map Prod.fst := by
  have told := List.not_of_lt_findIdx before
  rw [List.getElem_range] at told
  exact Decidable.not_not.mp (of_decide_eq_false told)

end

namespace Cutoff

variable {c : Cutoff} {limit i : Nat} {records : List (Nat × Bool)}

theorem walk_full (limit : Nat) (rest : List (Option Bool)) (firstOpen found : Nat)
    (full : limit ≤ found) : walk limit rest firstOpen found = (firstOpen, found) := by
  have room : ¬ found < limit := Nat.not_lt_of_le full
  rcases rest with _ | ⟨_ | answer, rest⟩
  · rfl
  · rfl
  · rw [walk, if_neg room]

theorem walk_filled (limit : Nat) (rest : List (Option Bool)) (firstOpen found : Nat)
    (room : found < limit) (full : limit ≤ (walk limit rest firstOpen found).2) :
    ∃ i, (walk limit rest firstOpen found).1 = firstOpen + i + 1 ∧ rest[i]? = some (some true) := by
  induction rest generalizing firstOpen found with
  | nil => exact absurd room (Nat.not_lt_of_le full)
  | cons answer rest ih =>
    cases answer with
    | none => exact absurd room (Nat.not_lt_of_le full)
    | some answer =>
      rw [walk, if_pos room] at full ⊢
      by_cases more : (if answer then found + 1 else found) < limit
      next =>
        obtain ⟨i, place, hit⟩ := ih _ _ more full
        exact ⟨i + 1, by omega, hit⟩
      next =>
        cases answer with
        | false => exact absurd room more
        | true => exact ⟨0, by rw [walk_full _ _ _ _ (Nat.le_of_not_lt more)], rfl⟩

def recordAll (c : Cutoff) (records : List (Nat × Bool)) : Cutoff :=
  records.foldl (fun c r => c.record r.1 r.2) c

theorem recordAll_shape (c : Cutoff) (records : List (Nat × Bool)) :
    (c.recordAll records).limit = c.limit ∧
      (c.recordAll records).answers.length = c.answers.length := by
  induction records generalizing c with
  | nil => exact ⟨rfl, rfl⟩
  | cons r rest ih =>
    obtain ⟨limit, length⟩ := ih (c.record r.1 r.2)
    exact ⟨limit, length.trans (by simp [record, advance])⟩

theorem recordAll_answers (once : (records.map Prod.fst).Nodup) (inside : i < c.answers.length)
    (found : Bool) :
    (c.recordAll records).answers[i]? = some (some found) ↔
      (i, found) ∈ records ∨
        i ∉ records.map Prod.fst ∧ c.answers[i]? = some (some found) := by
  induction records generalizing c with
  | nil => simp [recordAll]
  | cons r rest ih =>
    obtain ⟨place, answer⟩ := r
    obtain ⟨fresh, once⟩ := List.nodup_cons.mp once
    have later := @ih (c.record place answer) once (by simpa [record, advance] using inside)
    refine later.trans ?_
    by_cases same : place = i
    next =>
      subst same
      have unlisted : ∀ other, (place, other) ∉ rest := fun other member =>
        fresh (List.mem_map.mpr ⟨_, member, rfl⟩)
      simp [record, advance, inside, unlisted, eq_comm]
    next => simp [record, advance, same, Ne.symm same]

theorem recordAll_walked (walked : c.Walked) (once : (records.map Prod.fst).Nodup)
    (inside : ∀ r ∈ records, r.1 < c.answers.length)
    (unanswered : ∀ r ∈ records, c.isAnswered r.1 = false) : (c.recordAll records).Walked := by
  induction records generalizing c with
  | nil => exact walked
  | cons r rest ih =>
    obtain ⟨fresh, once⟩ := List.nodup_cons.mp once
    obtain ⟨here, others⟩ := List.forall_mem_cons.mp inside
    obtain ⟨new, later⟩ := List.forall_mem_cons.mp unanswered
    -- all places before the walk's end have their answers, so a new one comes in behind it
    have behind : c.firstOpen ≤ r.1 := by
      by_contra before
      have answered := walked.answered (Nat.lt_of_not_le before)
      simp [new] at answered
    refine ih (record_walked c r.1 r.2 walked behind) once (fun s member => ?_) fun s member => ?_
    · simpa [record, advance] using others s member
    · have other : r.1 ≠ s.1 := fun same => fresh (same ▸ List.mem_map_of_mem member)
      simp [isAnswered_record c r.1 r.2 here, other, later s member]

theorem Walked.last_hit (walked : c.Walked) (full : c.found = c.limit) (some : 0 < c.found) :
    ∃ i, c.firstOpen = i + 1 ∧ c.hits[c.found - 1]? = .some i := by
  have length := walked.length_hits
  unfold Walked at walked
  obtain ⟨i, place, hit⟩ := walk_filled c.limit c.answers 0 0 (full ▸ some)
    (by rw [walked]; exact Nat.le_of_eq full.symm)
  have place : c.firstOpen = i + 1 := by simpa [walked] using place
  -- the match that fills the page is the last that the walk has passed
  have last : c.hits =
      (List.range i).filter (fun j => c.answers[j]? == .some (.some true)) ++ [i] := by
    rw [hits, place, List.range_succ, List.filter_append]
    simp [hit]
  rw [last, List.length_append, List.length_singleton] at length
  refine ⟨i, place, ?_⟩
  rw [last, ← length, Nat.add_sub_cancel, List.getElem?_concat_length]

theorem Walked.unique {d : Cutoff} (walked : c.Walked) (other : d.Walked)
    (limits : c.limit = d.limit) (answers : c.answers = d.answers) : c = d := by
  unfold Walked at walked other
  rw [limits, answers, other] at walked
  cases c
  cases d
  simp_all

structure Resolves (c : Cutoff) (count limit : Nat) (records : List (Nat × Bool)) : Prop where
  limit : c.limit = limit
  length : c.answers.length = count
  walked : c.Walked
  answers : ∀ i < count, ∀ found, c.answers[i]? = some (some found) ↔ (i, found) ∈ records

theorem start_resolves (count limit : Nat) (once : (records.map Prod.fst).Nodup)
    (inside : ∀ r ∈ records, r.1 < count) :
    ((start count limit).recordAll records).Resolves count limit records := by
  obtain ⟨same, length⟩ := recordAll_shape (start count limit) records
  have all : (start count limit).answers.length = count := List.length_replicate
  refine ⟨same, length.trans all, ?_, fun i within found => ?_⟩
  · refine recordAll_walked (start_walked count limit) once (fun r member => ?_) fun r member => ?_
    · rw [all]
      exact inside r member
    · simp [isAnswered, start, inside r member]
  · rw [recordAll_answers once (all.symm ▸ within)]
    simp [start, within]

namespace Resolves

variable {count : Nat}

theorem isAnswered_iff (resolves : c.Resolves count limit records)
    (inside : ∀ r ∈ records, r.1 < count) (i : Nat) :
    c.isAnswered i = true ↔ i ∈ records.map Prod.fst := by
  rw [Cutoff.isAnswered_iff]
  constructor
  · rintro ⟨found, answer⟩
    obtain ⟨within, _⟩ := List.getElem?_eq_some_iff.mp answer
    have member := (resolves.answers i (resolves.length ▸ within) found).mp answer
    exact List.mem_map.mpr ⟨_, member, rfl⟩
  · intro listed
    obtain ⟨r, member, rfl⟩ := List.mem_map.mp listed
    exact ⟨r.2, (resolves.answers r.1 (inside r member) r.2).mpr member⟩

theorem hits (resolves : c.Resolves count limit records) :
    c.hits = (List.range c.firstOpen).filter fun i => (i, true) ∈ records := by
  refine List.filter_congr fun i member => ?_
  have within : i < count :=
    resolves.length ▸ Nat.lt_of_lt_of_le (List.mem_range.mp member) resolves.walked.inside
  rw [Bool.eq_iff_iff, beq_iff_eq, resolves.answers i within, decide_eq_true_eq]

theorem found (resolves : c.Resolves count limit records) :
    c.found = (List.range c.firstOpen).countP fun i => (i, true) ∈ records := by
  rw [← resolves.walked.length_hits, resolves.hits, List.countP_eq_length_filter]

theorem firstOpen_le (resolves : c.Resolves count limit records)
    (inside : ∀ r ∈ records, r.1 < count) : c.firstOpen ≤ firstGap count records := by
  by_contra beyond
  have before : firstGap count records < c.firstOpen := Nat.lt_of_not_le beyond
  have within := Nat.lt_of_lt_of_le before resolves.walked.inside
  rw [resolves.length] at within
  exact firstGap_open within ((resolves.isAnswered_iff inside _).mp (resolves.walked.answered before))

theorem hits_prefix (resolves : c.Resolves count limit records)
    (inside : ∀ r ∈ records, r.1 < count) : c.hits <+: leadingHits count records := by
  obtain ⟨more, far⟩ := Nat.exists_eq_add_of_le (resolves.firstOpen_le inside)
  rw [resolves.hits, leadingHits, far, List.range_add, List.filter_append]
  exact List.prefix_append _ _

theorem at_gap (resolves : c.Resolves count limit records)
    (inside : ∀ r ∈ records, r.1 < count) (room : c.found < limit) :
    c.firstOpen = firstGap count records := by
  have before := resolves.firstOpen_le inside
  refine Nat.le_antisymm before ?_
  by_contra early
  have gap := firstGap_le count records
  have unsettled : c.settled = false := by
    simp only [settled, Bool.or_eq_false_iff, decide_eq_false_iff_not, beq_eq_false_iff_ne]
    exact ⟨by rw [resolves.limit]; omega, by rw [resolves.length]; omega⟩
  have answered := recorded_of_lt_firstGap (Nat.lt_of_not_le early)
  rw [← resolves.isAnswered_iff inside] at answered
  simp [(resolves.walked.stops unsettled).2] at answered

theorem at_full (resolves : c.Resolves count limit records)
    (inside : ∀ r ∈ records, r.1 < count) (full : c.found = limit) :
    fullAfter limit (leadingHits count records) = some c.firstOpen := by
  cases limit with
  | zero =>
    have walked := resolves.walked
    rw [Walked, resolves.limit, walk_full _ _ _ _ (Nat.le_refl 0), Prod.mk.injEq] at walked
    rw [fullAfter, walked.1]
  | succ limit =>
    obtain ⟨i, place, last⟩ := resolves.walked.last_hit (full.trans resolves.limit.symm)
      (by rw [full]; omega)
    rw [full, Nat.add_sub_cancel] at last
    obtain ⟨later, hits⟩ := resolves.hits_prefix inside
    have counted : limit < c.hits.length := (List.getElem?_eq_some_iff.mp last).1
    rw [fullAfter, ← hits, List.getElem?_append_left counted, last, place, Option.map_some]

theorem firstOpen_eq (resolves : c.Resolves count limit records)
    (inside : ∀ r ∈ records, r.1 < count) :
    c.firstOpen = (fullAfter limit (leadingHits count records)).elim (firstGap count records)
      (min (firstGap count records)) := by
  have most := resolves.walked.found_le
  rw [resolves.limit] at most
  rcases Nat.lt_or_eq_of_le most with room | full
  · -- too few matches lie before the gap to fill the page
    have gap := resolves.at_gap inside room
    have few : leadingHits count records = c.hits := by rw [resolves.hits, leadingHits, gap]
    have short : c.hits.length < limit := by rwa [resolves.walked.length_hits]
    obtain ⟨limit, rfl⟩ := Nat.exists_eq_add_one_of_ne_zero (Nat.ne_zero_of_lt room)
    rw [fullAfter, few, List.getElem?_eq_none (by omega)]
    exact gap
  · rw [resolves.at_full inside full]
    exact (Nat.min_eq_right (resolves.firstOpen_le inside)).symm

theorem settled_iff (resolves : c.Resolves count limit records) :
    c.settled = true ↔ c.found = limit ∨ c.firstOpen = count := by
  have most := resolves.walked.found_le
  rw [resolves.limit] at most
  simp only [settled, Bool.or_eq_true, decide_eq_true_eq, beq_iff_eq, resolves.limit,
    resolves.length]
  omega

theorem unique {d : Cutoff} {others : List (Nat × Bool)} (resolves : c.Resolves count limit records)
    (other : d.Resolves count limit others) (perm : records.Perm others) : c = d := by
  refine resolves.walked.unique other.walked (resolves.limit.trans other.limit.symm) ?_
  have lengths := resolves.length.trans other.length.symm
  refine List.ext_getElem lengths fun i here there => ?_
  have within : i < count := resolves.length ▸ here
  have same : ∀ found, c.answers[i]? = some (some found) ↔ d.answers[i]? = some (some found) :=
    fun found => by
      rw [resolves.answers i within, other.answers i within, perm.mem_iff]
  simp only [List.getElem?_eq_getElem here, List.getElem?_eq_getElem there, Option.some.injEq] at same
  exact Option.ext same

end Resolves

/-- After answers about different repositories the cutoff lies at the first gap, or right after the
match that fills the page if that comes earlier; it has counted the matches before it, and knows
just the given answers. The order of the answers does not matter. -/
theorem records_resolve (count limit : Nat) (records : List (Nat × Bool))
    (once : (records.map Prod.fst).Nodup) (inside : ∀ r ∈ records, r.1 < count) :
    let c := (start count limit).recordAll records
    c.firstOpen = (fullAfter limit (leadingHits count records)).elim (firstGap count records)
      (min (firstGap count records)) ∧
    c.found = (List.range c.firstOpen).countP (fun i => (i, true) ∈ records) ∧
    (c.settled = true ↔ c.found = limit ∨ c.firstOpen = count) ∧
    (∀ i, c.isAnswered i = true ↔ i ∈ records.map Prod.fst) ∧
    ∀ others, records.Perm others -> (start count limit).recordAll others = c := by
  intro c
  have resolves := start_resolves count limit once inside
  refine ⟨resolves.firstOpen_eq inside, resolves.found, resolves.settled_iff,
    resolves.isAnswered_iff inside, fun others perm => ?_⟩
  have other := start_resolves count limit ((perm.map Prod.fst).nodup_iff.mp once)
    fun r member => inside r (perm.mem_iff.mpr member)
  exact (resolves.unique other perm).symm

-- The third repository fills the page while the last two are open, the first answer comes last, and
-- one match lies beyond the cutoff.
theorem lateFirst_resolves :
    let records := [(2, true), (1, false), (4, true), (0, true)]
    let c := (start 6 2).recordAll records
    c.firstOpen = 3 ∧ c.found = 2 ∧ c.settled = true ∧ c.isAnswered 4 = true ∧
      c.isAnswered 3 = false ∧ firstGap 6 records = 3 ∧
      (start 6 2).recordAll [(4, true), (0, true), (1, false), (2, true)] = c := by
  intro records c
  obtain ⟨place, counted, settled, answered, order⟩ :=
    records_resolve 6 2 records (by decide) (by decide)
  have third : c.firstOpen = 3 := place.trans (by decide)
  have found : c.found = 2 := by
    refine counted.trans ?_
    change (List.range c.firstOpen).countP _ = 2
    rw [third]
    decide
  refine ⟨third, found, settled.mpr (.inl found), (answered 4).mpr (by decide), ?_, by decide,
    order _ (by decide)⟩
  rw [Bool.eq_false_iff]
  exact fun told => absurd ((answered 3).mp told) (by decide)

end Cutoff

end FleetSearch.Search
