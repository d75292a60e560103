import FleetSearch.Proofs.Search.Gathering

set_option autoImplicit false

namespace FleetSearch.Search

variable {P : Type}

/-- A repository whose call ended as the failure says. -/
inductive Blames (sources : List (Source P)) : Failure -> Prop
  | probe (i : Nat) (message : String)
      (ends : (probeAt sources i).report? .probe = some (.error message)) :
    Blames sources (.probe (nameAt sources i) message)
  | fetch (i : Nat) (payload : P) (message : String)
      (done : probeAt sources i = .done { found := true, payload })
      (ends : (fetchAt sources i payload).report? .fetch = some (.error message)) :
    Blames sources (.fetch (nameAt sources i) message)
  | lostProbe (i : Nat) (inside : i < sources.length) (lost : probeAt sources i = .lost)
      (before : ∀ j < i, ∃ finding, probeAt sources j = .done finding) :
    Blames sources (.workerLost (nameAt sources i))
  | lostFetch (i : Nat) (lost : LosesFetch sources i) :
    Blames sources (.workerLost (nameAt sources i))

theorem fails_of_probe {sources : List (Source P)} {i : Nat} (inside : i < sources.length)
    (fails : ∀ finding, probeAt sources i ≠ .done finding) :
    ∃ source ∈ sources, source.succeeds = false := by
  refine ⟨sources[i], List.getElem_mem inside, ?_⟩
  have same : probeAt sources i = sources[i].probe := by simp [probeAt, inside]
  unfold Source.succeeds
  split
  next finding done => exact absurd (same.trans done) (fails finding)
  next => rfl

theorem fails_of_fetch {sources : List (Source P)} {i : Nat} {payload : P}
    (done : probeAt sources i = .done { found := true, payload })
    (fails : ∀ harvest, fetchAt sources i payload ≠ .done harvest) :
    ∃ source ∈ sources, source.succeeds = false := by
  obtain ⟨source, there, probed⟩ := probeAt_done done
  have same : fetchAt sources i payload = source.fetch payload := by simp [fetchAt, there]
  refine ⟨source, List.mem_of_getElem? there, ?_⟩
  have nothing : source.harvest? = none := by
    unfold Source.harvest?
    rw [probed]
    cases ending : source.fetch payload with
    | done harvest => exact absurd (same.trans ending) (fails harvest)
    | _ => simp [ending]
  simp [Source.succeeds, probed, nothing]

theorem Blames.fails {sources : List (Source P)} {failure : Failure}
    (blames : Blames sources failure) : ∃ source ∈ sources, source.succeeds = false := by
  cases blames with
  | probe i message ends =>
    have inside : i < sources.length := by
      by_contra outside
      simp [probeAt, List.getElem?_eq_none (Nat.le_of_not_lt outside), Ending.report?] at ends
    exact fails_of_probe inside fun finding done => by simp [done, Ending.report?] at ends
  | fetch i payload message done ends =>
    exact fails_of_fetch done fun harvest brings => by simp [brings, Ending.report?] at ends
  | lostProbe i inside lost before =>
    exact fails_of_probe inside fun finding done => by simp [done] at lost
  | lostFetch i lost =>
    obtain ⟨payload, done, lost⟩ := lost
    exact fails_of_fetch done fun harvest brings => by simp [brings] at lost

def Phase.failure? : Phase -> Option Failure
  | .decided failure => failure
  | .closing failure => failure
  | .draining failure => some failure
  | .fetching _ _ failure => failure
  | .failing failure => some failure
  | .done (.error failure) => some failure
  | _ => none

def FetchFails (sources : List (Source P)) (cut : Nat) : Prop :=
  ∃ i < cut, ∃ payload, probeAt sources i = .done { found := true, payload } ∧
    ∀ harvest, fetchAt sources i payload ≠ .done harvest

theorem LosesFetch.fails {sources : List (Source P)} {i cut : Nat} (lost : LosesFetch sources i)
    (below : i < cut) : FetchFails sources cut := by
  obtain ⟨payload, done, lost⟩ := lost
  exact ⟨i, below, payload, done, fun harvest brings => by simp [brings] at lost⟩

def Phase.Foiled (sources : List (Source P)) (c : Cutoff) : Phase -> Prop
  | .decided (some _) => c.settled = false
  | .closing (some _) => c.settled = false
  | .draining _ => c.settled = false
  | .fetching _ _ (some _) => FetchFails sources c.firstOpen
  | .failing _ => FetchFails sources c.firstOpen
  | .done (.error _) => c.settled = false ∨ FetchFails sources c.firstOpen
  | _ => True

namespace Run

structure Paged (sources : List (Source P)) (r : Run P) (page : Page) : Prop where
  page : page = scanPage sources r.request.limit r.offset r.nextLimit r.launched
  succeeds : ∀ source ∈ sources.take (cutAfter r.request.limit (sources.map Source.found)),
    source.succeeds = true

structure Lawful (sources : List (Source P)) (width : Nat) (r : Run P) : Prop where
  named : r.names = sources.map Source.name
  controlled : r.Controlled width
  sound : ∀ i, (seatAt r.seats i).Sound sources i
  decided : Decided sources r.names.length r.request.limit r.seats r.cutoff r.phase
  gathered : ∀ dispatched harvests failure, r.phase = .fetching dispatched harvests failure ->
    Gathered sources r.seats dispatched r.cutoff.hits harvests failure
  blamed : ∀ failure, r.phase.failure? = some failure -> Blames sources failure
  foiled : r.phase.Foiled sources r.cutoff
  paged : ∀ page, r.phase = .done (.ok page) -> r.Paged sources page

theorem lookup_isNone_iff (harvests : List (Nat × Harvest)) (i : Nat) :
    (harvests.lookup i).isNone = true ↔ i ∉ harvests.map Prod.fst := by
  simp only [Option.isNone_iff_eq_none, List.lookup_eq_none_iff, List.mem_map, not_exists, not_and,
    bne_iff_ne]
  exact ⟨fun apart entry member same => apart entry member same.symm,
    fun absent entry member same => absent entry member same.symm⟩

namespace Lawful

variable {sources : List (Source P)} {width : Nat} {r : Run P}

theorem nameOf (lawful : r.Lawful sources width) (i : Nat) : r.nameOf i = nameAt sources i := by
  rw [Run.nameOf, nameAt, lawful.named, List.getElem?_map]
  cases sources[i]? <;> rfl

theorem length (lawful : r.Lawful sources width) : r.names.length = sources.length := by
  rw [lawful.named, List.length_map]

theorem deserted (lawful : r.Lawful sources width) (phase : r.phase = .deciding)
    (mail : r.reports = []) (silent : r.isSilent = true) :
    r.cutoff.firstOpen < sources.length ∧ seatAt r.seats r.cutoff.firstOpen = .lost ∧
      probeAt sources r.cutoff.firstOpen = .lost ∧
      ∀ j < r.cutoff.firstOpen, ∃ finding, probeAt sources j = .done finding := by
  have flags := lawful.controlled.flagged.phase
  simp only [phase] at flags
  simp only [isSilent, Bool.and_eq_true, Bool.not_eq_true'] at silent
  obtain ⟨gone, calm⟩ := silent
  have all : r.launched = r.names.length := by
    rcases (lawful.controlled.launched.leaves gone).2 with closed | all
    · simp [closed] at flags
    · exact all
  have decided := lawful.decided
  rw [phase] at decided
  rw [← lawful.length]
  refine decided.deserted lawful.sound fun j opened inside => ?_
  have present : seatAt r.seats j ≠ .waiting := fun waiting => by
    have late := (lawful.controlled.launched.waiting j).mp waiting
    omega
  have still := (any_eq_false_iff Seat.hasPermit rfl r.seats).mp calm j
  have unheard : (seatAt r.seats j).isReported = false := by
    have none := lawful.controlled.mailed.reports.members j
    rw [mail] at none
    simpa using none
  cases seat : seatAt r.seats j <;>
    simp_all [Seat.isOpen, Seat.hasPermit, Seat.isReported]

theorem desert (lawful : r.Lawful sources width) (phase : r.phase = .deciding)
    (mail : r.reports = []) (silent : r.isSilent = true) :
    Blames sources (.workerLost (r.nameOf r.cutoff.firstOpen)) := by
  obtain ⟨inside, _, lost, before⟩ := lawful.deserted phase mail silent
  rw [lawful.nameOf]
  exact .lostProbe _ inside lost before

theorem below (lawful : r.Lawful sources width) {dispatched : List Nat}
    {harvests : List (Nat × Harvest)} {failure : Option Failure}
    (phase : r.phase = .fetching dispatched harvests failure) {i : Nat} (one : i ∈ dispatched) :
    i < r.cutoff.firstOpen := by
  rw [(lawful.gathered _ _ _ phase).all, Cutoff.hits, List.mem_filter, List.mem_range] at one
  exact one.1

theorem missing (lawful : r.Lawful sources width) {dispatched : List Nat}
    {harvests : List (Nat × Harvest)} {blamed : Failure}
    (phase : r.phase = .fetching dispatched harvests none) (mail : r.results = [])
    (quiet : r.seats.any Seat.isFetching = false)
    (blame : r.lostFetch? dispatched harvests = some blamed) :
    ∃ i < r.cutoff.firstOpen, LosesFetch sources i ∧ blamed = .workerLost (nameAt sources i) ∧
      ∀ j < i, ∀ payload, probeAt sources j = .done { found := true, payload } ->
        ∃ harvest, fetchAt sources j payload = .done harvest := by
  obtain ⟨i, first, rfl⟩ := Option.map_eq_some_iff.mp blame
  have one := List.mem_of_find?_eq_some first
  have absent : i ∉ harvests.map Prod.fst :=
    (lookup_isNone_iff harvests i).mp (List.find?_eq_some_iff_append.mp first).1
  have gathered := lawful.gathered _ _ _ phase
  refine ⟨i, lawful.below phase one, ?_, by rw [lawful.nameOf], fun j before payload done => ?_⟩
  · rcases gathered.missing i one with away | there | failed | lost
    · have ended := admits_over lawful.controlled phase mail quiet i
      cases seat : seatAt r.seats i <;> simp_all [Phase.admits, Seat.isOut, Seat.isFetching,
        Seat.isFetched]
    · exact absurd there absent
    · cases failed
    · exact lost
  · have hit := lawful.decided.hit (Nat.lt_trans before (lawful.below phase one)) done
    rw [gathered.all, Cutoff.hits, List.find?_filter, List.find?_range_eq_some] at first
    rw [Cutoff.hits, List.mem_filter] at hit
    have came : ¬ (harvests.lookup j).isNone = true := fun away => by
      simpa [hit.2, away] using first.2.2 j before
    rw [lookup_isNone_iff, not_not] at came
    obtain ⟨entry, there, rfl⟩ := List.mem_map.mp came
    exact ⟨entry.2, fetched_of_harvestAt done (gathered.brought entry there).2.1⟩

theorem scanned (lawful : r.Lawful sources width) {dispatched : List Nat}
    {harvests : List (Nat × Harvest)} (phase : r.phase = .fetching dispatched harvests none)
    (complete : r.lostFetch? dispatched harvests = none) : r.Paged sources (r.page harvests) := by
  have decided := lawful.decided
  have gathered := lawful.gathered _ _ _ phase
  have present : ∀ i ∈ dispatched, i ∈ harvests.map Prod.fst := fun i one => by
    by_contra absent
    have none := List.find?_eq_none.mp (Option.map_eq_none_iff.mp complete) i one
    exact none ((lookup_isNone_iff harvests i).mpr absent)
  have came := gathered.complete decided present
  have cut : r.cutoff.firstOpen = cutAfter r.request.limit (sources.map Source.found) := by
    rw [← decided.limit]
    refine decided.walked.cut (decided.settled (.inr (.inr (by rw [phase]; rfl)))) _
      (by rw [List.length_map, decided.length, lawful.length]) fun i answer known => ?_
    obtain ⟨payload, done⟩ := decided.told i answer known
    exact found_of_done done
  refine ⟨?_, fun source member => ?_⟩
  · have results := map_result_harvestsTo sources r.cutoff.firstOpen r.resultOf fun i harvest => by
      rw [resultOf, lawful.nameOf]
    have opened : harvests.map (fun entry => entry.2.filesOpened) =
        ((sources.take r.cutoff.firstOpen).filterMap Source.harvest?).map Harvest.filesOpened := by
      rw [came, ← map_snd_harvestsTo, List.map_map]
      rfl
    rw [Run.page, scanPage, opened, came, results, cut, lawful.length, List.sum_eq_foldr]
  · rw [← cut] at member
    obtain ⟨i, inside, rfl⟩ := List.mem_iff_getElem.mp member
    have below : i < r.cutoff.firstOpen := by
      simp only [List.length_take] at inside
      omega
    obtain ⟨answer, known⟩ := (Cutoff.isAnswered_iff _ i).mp (decided.walked.answered below)
    obtain ⟨payload, done⟩ := decided.told i answer known
    refine succeeds_of_done done (fun found => ?_) (i := i) (by simp)
    have found : answer = true := found
    subst found
    have one : i ∈ dispatched := by
      rw [gathered.all, Cutoff.hits, List.mem_filter, List.mem_range]
      exact ⟨below, by simp [known]⟩
    obtain ⟨entry, there, rfl⟩ := List.mem_map.mp (present i one)
    simp [(gathered.brought entry there).2.1]

end Lawful

theorem Step.given {sources : List (Source P)} {r next : Run P} {m : Move} {events : List (Event P)}
    (step : Step sources r m events next) :
    next.request = r.request ∧ next.names = r.names ∧ next.offset = r.offset ∧
      next.nextLimit = r.nextLimit := by
  cases step <;> exact ⟨rfl, rfl, rfl, rfl⟩

namespace Step

variable {sources : List (Source P)} {width : Nat} {r next : Run P} {m : Move}
  {events : List (Event P)}

theorem blamed (step : Step sources r m events next) (lawful : r.Lawful sources width)
    (failure : Failure) (phase : next.phase.failure? = some failure) : Blames sources failure := by
  have old := lawful.blamed
  cases step with
  | idle | release | take | spawn | leave | call | record | strayReport | reap | reaped | strayResult
    | loseProbe | report | missReport | bring | missResult => exact old failure phase
  | settle | dispatch | page | abandon | abandonFetches | abandonFailure => cases phase
  | refuse i rest message deciding mail seat =>
    cases phase
    have truth := Seat.sound_at lawful.sound seat
    rw [lawful.nameOf]
    exact .probe i message truth
  | desert deciding mail silent =>
    cases phase
    exact lawful.desert deciding mail silent
  | close blamed closing | letGo blamed closing gone | drained blamed closing mail silent
    | giveIn blamed closing calm
    | collect dispatched harvests blamed i rest harvest closing mail seat =>
    exact old failure (by rw [closing]; exact phase)
  | spoil dispatched harvests blamed i rest message fetching mail seat =>
    rcases blamed with _ | blamed
    · cases phase
      obtain ⟨payload, done, ends⟩ := Seat.sound_at lawful.sound seat
      rw [lawful.nameOf]
      exact .fetch i payload message done ends
    · exact old failure (by rw [fetching]; exact phase)
  | fail dispatched harvests blamed last fetching mail quiet blame =>
    cases phase
    rcases blamed with _ | blamed
    · obtain ⟨i, _, lost, rfl, _⟩ := lawful.missing fetching mail quiet blame
      exact .lostFetch i lost
    · exact old failure (by rw [fetching]; exact blame)

theorem foiled (step : Step sources r m events next) (lawful : r.Lawful sources width) :
    next.phase.Foiled sources next.cutoff := by
  have old := lawful.foiled
  have unsettled := lawful.decided.unsettled
  cases step with
  | idle | release | take | spawn | leave | call | strayReport | reap | reaped | strayResult
    | loseProbe | report | missReport | bring | missResult => exact old
  | settle | dispatch | page | abandon | abandonFetches | abandonFailure => trivial
  | record i rest finding phase =>
    show r.phase.Foiled sources _
    rw [phase]
    trivial
  | refuse i rest message phase => exact unsettled phase
  | desert phase => exact unsettled phase
  | close failure phase =>
    rw [phase] at old
    cases failure <;> exact old
  | letGo failure phase =>
    rw [phase] at old
    exact old
  | drained failure phase =>
    rw [phase] at old
    exact .inl old
  | giveIn failure phase =>
    rw [phase] at old
    exact .inr old
  | collect dispatched harvests failure i rest harvest phase =>
    rw [phase] at old
    cases failure <;> exact old
  | spoil dispatched harvests failure i rest message phase mail seat =>
    rcases failure with _ | failure
    · obtain ⟨payload, done, ends⟩ := Seat.sound_at lawful.sound seat
      have one := (lawful.gathered _ _ _ phase).awaited i
        (by rw [show seatAt r.seats i = _ from seat]; rfl)
      exact ⟨i, lawful.below phase one, payload, done, fun harvest brings => by
        simp [brings, Ending.report?] at ends⟩
    · rw [phase] at old
      exact old
  | fail dispatched harvests failure blamed phase mail quiet blame =>
    rcases failure with _ | failure
    · obtain ⟨i, below, lost, _, _⟩ := lawful.missing phase mail quiet blame
      exact lost.fails below
    · rw [phase] at old
      exact old

theorem paged (step : Step sources r m events next) (lawful : r.Lawful sources width) (page : Page)
    (phase : next.phase = .done (.ok page)) : next.Paged sources page := by
  have old := lawful.paged page
  cases step with
  | idle | release | take | leave | call | strayReport | reap | reaped | strayResult | loseProbe
    | report | missReport | bring | missResult =>
    obtain ⟨same, succeeds⟩ := old phase
    exact ⟨same, succeeds⟩
  | refuse | settle | desert | close | letGo | dispatch | drained | collect | spoil | fail | giveIn
    | abandon | abandonFetches | abandonFailure => cases phase
  | record i rest finding deciding => simp_all [put]
  | spawn launching holding =>
    have flags := lawful.controlled.flagged.phase
    simp [show r.phase = _ from phase, launching] at flags
  | page dispatched harvests fetching mail quiet complete =>
    cases phase
    obtain ⟨same, succeeds⟩ := lawful.scanned fetching complete
    exact ⟨same, succeeds⟩

theorem lawful (step : Step sources r m events next) (lawful : r.Lawful sources width) :
    next.Lawful sources width where
  named := step.given.2.1.trans lawful.named
  controlled := step.controlled lawful.controlled
  sound := fun i => (step.goes lawful.controlled i).sound (lawful.sound i)
  decided := step.decided lawful.controlled lawful.sound lawful.decided
  gathered := step.gathered lawful.controlled lawful.sound lawful.decided lawful.gathered
  blamed := step.blamed lawful
  foiled := step.foiled lawful
  paged := step.paged lawful

end Step

theorem play_lawful {sources : List (Source P)} {width : Nat} (r : Run P)
    (lawful : r.Lawful sources width) (moves : List Move) :
    (r.play sources moves).1.Lawful sources width := by
  induction moves generalizing r with
  | nil => exact lawful
  | cons m rest ih => exact ih _ ((move_step sources r m).lawful lawful)

theorem seatAt_replicate (n i : Nat) :
    seatAt (List.replicate n (Seat.waiting : Seat P)) i = .waiting := by
  by_cases inside : i < n <;> simp [seatAt, inside]

theorem start_controlled {width : Nat} {r : Run P} (permits : r.permits = width)
    (seats : r.seats = List.replicate r.names.length .waiting)
    (launched : r.launched = 0) (empty : r.holding = false) (reports : r.reports = [])
    (results : r.results = [])
    (flagged : r.Flagged) (leaves : r.launching = false -> r.closed = true) :
    r.Controlled width where
  launched := by
    rw [seats, launched, permits, empty]
    refine ⟨by simp, Nat.zero_le _, fun i => by simp [seatAt_replicate], ?_, by simp,
      fun left => ⟨rfl, .inl (leaves left)⟩⟩
    simp [List.countP_replicate, Seat.hasPermit]
  mailed := by
    rw [seats, reports, results]
    exact ⟨⟨List.nodup_nil, fun i => by simp [seatAt_replicate, Seat.isReported]⟩,
      ⟨List.nodup_nil, fun i => by simp [seatAt_replicate, Seat.isFetched]⟩⟩
  flagged := flagged
  admitted := fun i => by
    rw [seats, seatAt_replicate]
    cases r.phase <;> rfl

theorem start_decided (sources : List (Source P)) (size limit : Nat) (phase : Phase)
    (unsettled : phase = .deciding -> 0 < size ∧ 0 < limit)
    (early : phase ≠ .decided none ∧ phase ≠ .closing none ∧ isFetchPhase phase = false) :
    Decided sources size limit (List.replicate size .waiting) (Cutoff.start size limit) phase := by
  have unanswered : ∀ (i : Nat) (answer : Bool),
      (Cutoff.start size limit).answers[i]? ≠ some (some answer) := fun i answer => by
    by_cases inside : i < size <;> simp [Cutoff.start, inside]
  have fresh : ∀ i, (Cutoff.start size limit).isAnswered i = false := fun i => by
    rw [← Bool.not_eq_true, Cutoff.isAnswered_iff]
    rintro ⟨answer, known⟩
    exact unanswered i answer known
  refine ⟨rfl, by simp [Cutoff.start], Cutoff.start_walked size limit, ?_, fun i _ => fresh i, ?_,
    ?_, ?_, ?_⟩
  · intro i answer known
    exact absurd known (unanswered i answer)
  · intro deciding
    obtain ⟨nonempty, room⟩ := unsettled deciding
    simp [Cutoff.settled, Cutoff.start]
    omega
  · intro _ i closed
    simp [seatAt_replicate, Seat.isOpen] at closed
  · intro _ i
    simp [seatAt_replicate, Seat.isHeld, unanswered]
  · intro which
    rcases which with decided | closing | fetching
    · exact absurd decided early.1
    · exact absurd closing early.2.1
    · simp [early.2.2] at fetching

theorem start_lawful (sources : List (Source P)) (request : Request) (maxProbes nextLimit : Nat) :
    (start (sources.map Source.name) request maxProbes nextLimit : Run P).Lawful
      (sources.drop (min request.offset sources.length))
      (min (sources.drop (min request.offset sources.length)).length maxProbes) := by
  have width : (List.drop (min request.offset sources.length) (sources.map Source.name)).length =
      (sources.drop (min request.offset sources.length)).length := by simp
  unfold start
  simp only [List.length_map]
  split
  next vacant =>
    have nothing : sources.drop (min request.offset sources.length) = [] ∨ request.limit = 0 := by
      simpa [List.drop_eq_nil_iff] using vacant
    rw [← width]
    refine
      { named := by simp
        controlled := start_controlled rfl rfl rfl rfl rfl rfl
          ⟨fun waiting => absurd rfl waiting, rfl, rfl, rfl⟩ fun _ => rfl
        sound := fun i => ?_
        decided := start_decided _ _ _ _ (by simp) (by simp [isFetchPhase])
        gathered := by simp
        blamed := by simp [Phase.failure?]
        foiled := trivial
        paged := ?_ }
    · show (seatAt (List.replicate _ Seat.waiting) i).Sound _ i
      rw [seatAt_replicate]
      trivial
    · intro page phase
      cases phase
      refine ⟨?_, fun source member => ?_⟩
      · show _ = scanPage _ _ _ _ 0
        rw [scanPage_vacant _ _ _ _ nothing, width]
      · have vacant : source ∈ List.take (cutAfter request.limit _) _ := member
        rw [cutAfter_vacant _ _ nothing] at vacant
        cases vacant
  next busy =>
    rw [← width]
    refine
      { named := by simp
        controlled := start_controlled rfl rfl rfl rfl rfl rfl
          ⟨fun waiting => absurd rfl waiting, rfl, rfl, rfl⟩ fun left => by cases left
        sound := fun i => ?_
        decided := start_decided _ _ _ _ (fun _ => ?_) (by simp [isFetchPhase])
        gathered := by simp
        blamed := by simp [Phase.failure?]
        foiled := trivial
        paged := by simp }
    · show (seatAt (List.replicate _ Seat.waiting) i).Sound _ i
      rw [seatAt_replicate]
      trivial
    · simp only [Bool.or_eq_true, List.isEmpty_iff, decide_eq_true_eq, not_or] at busy
      exact ⟨List.length_pos_of_ne_nil busy.1, Nat.pos_of_ne_zero busy.2⟩

end Run

end FleetSearch.Search
