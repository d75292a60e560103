import FleetSearch.Proofs.Search.Blame
import Mathlib.Data.List.Perm.Subperm

set_option autoImplicit false

namespace FleetSearch.Search

variable {P : Type}

namespace Seat

def isProbed : Seat P -> Bool
  | .waiting => false
  | .spawned => false
  | .probing => false
  | _ => true

def isOnTheWay : Seat P -> Bool
  | .fetching _ => true
  | .fetched _ => true
  | _ => false

def isBrought : Seat P -> Bool
  | .fetched _ => true
  | .freed => true
  | .released => true
  | _ => false

namespace Goes

variable {sources : List (Source P)} {i : Nat} {m : Move} {s next : Seat P}

theorem isProbed (goes : Goes sources i m s next) (probed : s.isProbed = true) :
    next.isProbed = true := by
  cases goes <;> simp_all [Seat.isProbed]

theorem isBrought (goes : Goes sources i m s next) (brought : s.isBrought = true) :
    next.isBrought = true := by
  cases goes <;> simp_all [Seat.isBrought]

theorem isOnTheWay (goes : Goes sources i m s next) (after : next.isOnTheWay = true) :
    s.isOnTheWay = true ∨ ∃ payload, s = .held payload ∧ next = .fetching payload := by
  cases goes <;> simp_all [Seat.isOnTheWay]

end Goes

end Seat

namespace Run

def publishes (sources : List (Source P)) (r : Run P) : Move -> List Nat
  | .endProbe i =>
    if r.isProbing i && ((probeAt sources i).report? .probe).isSome then [i] else []
  | _ => []

def delivers (sources : List (Source P)) (r : Run P) : Move -> List Nat
  | .endFetch i =>
    match r.seat i with
    | .fetching payload => if ((fetchAt sources i payload).report? .fetch).isSome then [i] else []
    | _ => []
  | _ => []

def reportRoom (r : Run P) : Nat :=
  r.names.length

def resultRoom (r : Run P) : Nat :=
  max (min r.request.limit r.cutoff.firstOpen) 1

-- A worker sends a message to somebody whose mailbox is full.
def crowds (sources : List (Source P)) (r : Run P) (m : Move) : Bool :=
  (!(r.publishes sources m).isEmpty && r.listening && r.reportRoom <= r.reports.length) ||
    (!(r.delivers sources m).isEmpty && isFetchPhase r.phase && r.resultRoom <= r.results.length)

def moveWithin (sources : List (Source P)) (r : Run P) (m : Move) : Run P × List (Event P) :=
  if r.crowds sources m then (r, []) else r.move sources m

def playWithin (sources : List (Source P)) (r : Run P) : List Move -> Run P × List (Event P)
  | [] => (r, [])
  | m :: rest =>
    let next := r.moveWithin sources m
    let last := next.1.playWithin sources rest
    (last.1, next.2 ++ last.2)

variable {sources : List (Source P)} {width : Nat} {r next : Run P} {m : Move} {i : Nat}
  {events : List (Event P)}

theorem mem_publishes (member : i ∈ r.publishes sources m) :
    m = .endProbe i ∧ seatAt r.seats i = .probing ∧
      ∃ report, (probeAt sources i).report? .probe = some report := by
  cases m with
  | endProbe j =>
    simp only [publishes] at member
    split at member
    next sends =>
      obtain rfl := List.mem_singleton.mp member
      obtain ⟨probing, sent⟩ := (Bool.and_eq_true _ _).mp sends
      refine ⟨rfl, ?_, Option.isSome_iff_exists.mp sent⟩
      have probing : (seatAt r.seats i).isProbing = true := probing
      cases seat : seatAt r.seats i <;> simp_all [Seat.isProbing]
    next => cases member
  | _ => cases member

theorem mem_delivers (member : i ∈ r.delivers sources m) :
    m = .endFetch i ∧ ∃ payload, seatAt r.seats i = .fetching payload ∧
      ∃ result, (fetchAt sources i payload).report? .fetch = some result := by
  cases m with
  | endFetch j =>
    simp only [delivers] at member
    split at member
    next payload seat =>
      split at member
      next sent =>
        obtain rfl := List.mem_singleton.mp member
        exact ⟨rfl, payload, seat, Option.isSome_iff_exists.mp sent⟩
      next => cases member
    next => cases member
  | _ => cases member

theorem publishes_once (sources : List (Source P)) (r : Run P) (m : Move) :
    (r.publishes sources m).Nodup := by
  unfold publishes
  split
  next => split <;> simp
  next => simp

theorem delivers_once (sources : List (Source P)) (r : Run P) (m : Move) :
    (r.delivers sources m).Nodup := by
  unfold delivers
  split
  next =>
    split
    next => split <;> simp
    next => simp
  next => simp

theorem isProbed_of_publishes (member : i ∈ r.publishes sources m) :
    (seatAt (r.move sources m).1.seats i).isProbed = true := by
  obtain ⟨rfl, seat, report, sent⟩ := mem_publishes member
  have inside : i < r.seats.length := lt_length_of_seatAt (by simp [seat])
  have probing : r.isProbing i = true := by
    show (seatAt r.seats i).isProbing = true
    rw [seat]
    rfl
  simp only [move, endProbe, probing, if_true, sent]
  split <;> simp [put, seatAt_set_self inside, Seat.isProbed]

theorem isBrought_of_delivers (member : i ∈ r.delivers sources m) :
    (seatAt (r.move sources m).1.seats i).isBrought = true := by
  obtain ⟨rfl, payload, seat, result, sent⟩ := mem_delivers member
  have inside : i < r.seats.length := lt_length_of_seatAt (by simp [seat])
  have seat : r.seat i = .fetching payload := seat
  have fetching : r.isFetching i = true := by simp [isFetching, seat, Seat.isFetching]
  simp only [move, seat, endFetch, fetching, if_true, sent]
  split <;> simp [put, seatAt_set_self inside, Seat.isBrought]

theorem Step.fetch_hit (step : Step sources r m events next) (lawful : r.Lawful sources width)
    {payload : P} (fetches : .fetch i payload ∈ events) :
    i ∈ next.cutoff.hits ∧ next.cutoff.settled = true := by
  refine ⟨?_, step.settled_of_fetch lawful fetches⟩
  cases step with
  | dispatch phase gone =>
    obtain ⟨j, chosen, own⟩ := List.mem_flatMap.mp fetches
    unfold fetchEvent at own
    split at own
    next =>
      cases List.mem_singleton.mp own
      rwa [chosen_eq_hits lawful.decided (Phase.isEarly_closing phase)] at chosen
    next => cases own
  | release | call => simp at fetches
  | _ => cases fetches

theorem Step.onTheWay (step : Step sources r m events next) (lawful : r.Lawful sources width)
    (after : (seatAt next.seats i).isOnTheWay = true) :
    (seatAt r.seats i).isOnTheWay = true ∨
      i ∈ next.cutoff.hits ∧ next.cutoff.settled = true := by
  rcases (step.goes lawful.controlled i).isOnTheWay after with before | ⟨payload, held, fetching⟩
  · exact .inl before
  · have told := step.tells lawful i
    rw [held, fetching] at told
    have fetches : .fetch i payload ∈ about i events := by
      rw [told]
      exact List.mem_singleton_self _
    exact .inr (step.fetch_hit lawful (List.mem_of_mem_filter fetches))

structure Posted (r : Run P) (reports results : List Nat) : Prop where
  once : reports.Nodup
  probed : ∀ i ∈ reports, (seatAt r.seats i).isProbed = true
  onceEach : results.Nodup
  brought : ∀ i ∈ results, (seatAt r.seats i).isBrought = true
  below : ∀ i, (seatAt r.seats i).isOnTheWay = true ∨ i ∈ results ->
    i ∈ r.cutoff.hits ∧ r.cutoff.settled = true

namespace Posted

variable {reports results : List Nat}

theorem inside (posted : r.Posted reports results) : ∀ i ∈ reports, i < r.seats.length :=
  fun i member => lt_length_of_seatAt fun waiting => by
    simpa [waiting, Seat.isProbed] using posted.probed i member

theorem sending (posted : r.Posted reports results) (sends : i ∈ r.delivers sources m) :
    i ∈ r.cutoff.hits ∧ r.cutoff.settled = true := by
  obtain ⟨-, payload, seat, -⟩ := mem_delivers sends
  exact posted.below i (.inl (by simp [seat, Seat.isOnTheWay]))

theorem move (posted : r.Posted reports results) (lawful : r.Lawful sources width) (m : Move) :
    (r.move sources m).1.Posted (reports ++ r.publishes sources m)
      (results ++ r.delivers sources m) := by
  have step := move_step sources r m
  have goes := step.goes lawful.controlled
  have kept : ∀ {i}, i ∈ r.cutoff.hits ∧ r.cutoff.settled = true ->
      i ∈ (r.move sources m).1.cutoff.hits ∧ (r.move sources m).1.cutoff.settled = true :=
    fun hit => by rwa [step.cutoff_of_settled lawful hit.2]
  refine ⟨?_, fun i member => ?_, ?_, fun i member => ?_, fun i which => ?_⟩
  · refine List.nodup_append'.mpr ⟨posted.once, publishes_once _ _ _, fun i sent again => ?_⟩
    have probed := posted.probed i sent
    simp [(mem_publishes again).2.1, Seat.isProbed] at probed
  · rcases List.mem_append.mp member with before | now
    · exact (goes i).isProbed (posted.probed i before)
    · exact isProbed_of_publishes now
  · refine List.nodup_append'.mpr ⟨posted.onceEach, delivers_once _ _ _, fun i sent again => ?_⟩
    obtain ⟨-, payload, seat, -⟩ := mem_delivers again
    have brought := posted.brought i sent
    simp [seat, Seat.isBrought] at brought
  · rcases List.mem_append.mp member with before | now
    · exact (goes i).isBrought (posted.brought i before)
    · exact isBrought_of_delivers now
  · rcases which with away | member
    · rcases step.onTheWay lawful away with before | hit
      · exact kept (posted.below i (.inl before))
      · exact hit
    · rcases List.mem_append.mp member with before | now
      · exact kept (posted.below i (.inr before))
      · exact kept (posted.sending now)

theorem play (posted : r.Posted reports results) (lawful : r.Lawful sources width)
    (moves : List Move) :
    (r.play sources moves).1.Posted (reports ++ r.tally sources (publishes sources) moves)
      (results ++ r.tally sources (delivers sources) moves) := by
  induction moves generalizing r reports results with
  | nil => simpa [tally, Run.play] using posted
  | cons m rest later =>
    have after := later (posted.move lawful m) ((move_step sources r m).lawful lawful)
    rwa [List.append_assoc, List.append_assoc] at after

theorem start (repos : List String) (request : Request) (maxProbes nextLimit : Nat) :
    (start repos request maxProbes nextLimit : Run P).Posted [] [] where
  once := List.nodup_nil
  probed := nofun
  onceEach := List.nodup_nil
  brought := nofun
  below := fun i which => by
    rw [start_seats] at which
    simp [Seat.isOnTheWay] at which

theorem reports_le (posted : r.Posted reports results) (lawful : r.Lawful sources width)
    (m : Move) : (reports ++ r.publishes sources m).length ≤ r.reportRoom := by
  have within : reports ++ r.publishes sources m ⊆ List.range r.reportRoom := fun i member => by
    rw [List.mem_range, reportRoom, ← lawful.controlled.launched.length]
    rcases List.mem_append.mp member with before | now
    · exact posted.inside i before
    · exact lt_length_of_seatAt (by simp [(mem_publishes now).2.1])
  have few := (List.subperm_of_subset (posted.move lawful m).once within).length_le
  rwa [List.length_range] at few

theorem results_le (posted : r.Posted reports results) (lawful : r.Lawful sources width)
    (m : Move) : (results ++ r.delivers sources m).length ≤ r.cutoff.found := by
  have within : results ++ r.delivers sources m ⊆ r.cutoff.hits := fun i member => by
    rcases List.mem_append.mp member with before | now
    · exact (posted.below i (.inr before)).1
    · exact (posted.sending now).1
  have few := (List.subperm_of_subset (posted.move lawful m).onceEach within).length_le
  rwa [lawful.decided.walked.length_hits] at few

end Posted

theorem found_le_room (lawful : r.Lawful sources width) :
    r.cutoff.found ≤ min r.request.limit r.cutoff.firstOpen := by
  have walked := lawful.decided.walked
  refine Nat.le_min.mpr ⟨lawful.decided.limit ▸ walked.found_le, ?_⟩
  rw [← walked.length_hits, Cutoff.hits]
  exact Nat.le_trans (List.length_filter_le _ _) (Nat.le_of_eq List.length_range)

theorem found_le_resultRoom (lawful : r.Lawful sources width) : r.cutoff.found ≤ r.resultRoom :=
  Nat.le_trans (found_le_room lawful) (Nat.le_max_left _ _)

theorem reports_room (held : r.Controlled width) (sends : i ∈ r.publishes sources m) :
    r.reports.length < r.reportRoom := by
  have seat := (mem_publishes sends).2.1
  have mail := held.mailed.reports
  have fresh : i ∉ r.reports := fun waits => by
    have reported := (mail.members i).mp waits
    simp [seat, Seat.isReported] at reported
  have within : i :: r.reports ⊆ List.range r.reportRoom := fun j member => by
    rw [List.mem_range, reportRoom, ← held.launched.length]
    refine lt_length_of_seatAt fun waiting => ?_
    rcases List.mem_cons.mp member with rfl | waits
    · simp [seat] at waiting
    · have reported := (mail.members j).mp waits
      simp [waiting, Seat.isReported] at reported
  have few := (List.subperm_of_subset (List.nodup_cons.mpr ⟨fresh, mail.once⟩) within).length_le
  rwa [List.length_range] at few

theorem results_room {reports results : List Nat} (posted : r.Posted reports results)
    (lawful : r.Lawful sources width) (sends : i ∈ r.delivers sources m) :
    r.results.length < r.resultRoom := by
  obtain ⟨-, payload, seat, -⟩ := mem_delivers sends
  have mail := lawful.controlled.mailed.results
  have fresh : i ∉ r.results := fun waits => by
    have fetched := (mail.members i).mp waits
    simp [seat, Seat.isFetched] at fetched
  have within : i :: r.results ⊆ r.cutoff.hits := fun j member => by
    refine (posted.below j (.inl ?_)).1
    rcases List.mem_cons.mp member with rfl | waits
    · simp [seat, Seat.isOnTheWay]
    · have fetched := (mail.members j).mp waits
      cases there : seatAt r.seats j <;> simp_all [Seat.isFetched, Seat.isOnTheWay]
  have few := (List.subperm_of_subset (List.nodup_cons.mpr ⟨fresh, mail.once⟩) within).length_le
  rw [lawful.decided.walked.length_hits] at few
  exact Nat.lt_of_lt_of_le few (found_le_resultRoom lawful)

theorem moveWithin_eq {reports results : List Nat} (posted : r.Posted reports results)
    (lawful : r.Lawful sources width) (m : Move) : r.moveWithin sources m = r.move sources m := by
  refine if_neg fun waits => ?_
  simp only [crowds, Bool.or_eq_true, Bool.and_eq_true, Bool.not_eq_true', decide_eq_true_eq,
    List.isEmpty_eq_false_iff_exists_mem] at waits
  obtain ⟨⟨⟨i, sends⟩, _⟩, full⟩ | ⟨⟨⟨i, sends⟩, _⟩, full⟩ := waits
  · exact absurd (reports_room lawful.controlled sends) (Nat.not_lt_of_le full)
  · exact absurd (results_room posted lawful sends) (Nat.not_lt_of_le full)

-- With mailboxes that have so much room and no more, a run goes as it does with endless ones.
theorem playWithin_eq {reports results : List Nat} (posted : r.Posted reports results)
    (lawful : r.Lawful sources width) (moves : List Move) :
    r.playWithin sources moves = r.play sources moves := by
  induction moves generalizing r reports results with
  | nil => rfl
  | cons m rest later =>
    have after := later (posted.move lawful m) ((move_step sources r m).lawful lawful)
    rw [playWithin, moveWithin_eq posted lawful, after, play]

def dispatchFrom (limit : Nat) : (index : Nat) -> (dispatched : List Nat) -> List (Seat P) ->
    List (Seat P) × List Nat
  | _, dispatched, [] => ([], dispatched)
  | index, dispatched, s :: rest =>
    if dispatched.length = limit then (s :: rest, dispatched)
    else
      let (seats, all) :=
        dispatchFrom limit (index + 1) (if s.isHeld then dispatched ++ [index] else dispatched) rest
      (s.fetch :: seats, all)

def dispatchEach (r : Run P) : Run P × List (Event P) :=
  let (kept, dispatched) := dispatchFrom r.request.limit 0 [] (r.seats.take r.cutoff.firstOpen)
  ({ r with
      seats := kept ++ (r.seats.drop r.cutoff.firstOpen).map Seat.freeHeld
      phase := .fetching dispatched [] none
      reaping := true },
    dispatched.flatMap r.fetchEvent)

def heldFrom (index : Nat) (seats : List (Seat P)) : List Nat :=
  (List.range' index seats.length).filter fun j => (seatAt seats (j - index)).isHeld

theorem heldFrom_cons (index : Nat) (s : Seat P) (rest : List (Seat P)) :
    heldFrom index (s :: rest) =
      (if s.isHeld then [index] else []) ++ heldFrom (index + 1) rest := by
  have tail : ((List.range' (index + 1) rest.length).filter fun j =>
      (seatAt (s :: rest) (j - index)).isHeld) = heldFrom (index + 1) rest := by
    refine List.filter_congr fun j member => ?_
    have behind := (List.mem_range'_1.mp member).1
    have place : j - index = j - (index + 1) + 1 := by omega
    rw [place]
    rfl
  have head : seatAt (s :: rest) (index - index) = s := by simp [seatAt]
  rw [heldFrom, List.length_cons, List.range'_succ, List.filter_cons, tail, head]
  split <;> rfl

theorem fetch_unheld {s : Seat P} (other : s.isHeld = false) : s.fetch = s := by
  cases s <;> simp_all [Seat.isHeld, Seat.fetch]

theorem map_fetch_unheld {index : Nat} {seats : List (Seat P)} (none : heldFrom index seats = []) :
    seats.map Seat.fetch = seats := by
  induction seats generalizing index with
  | nil => rfl
  | cons s rest others =>
    rw [heldFrom_cons, List.append_eq_nil_iff] at none
    have unheld : s.isHeld = false := by simpa using none.1
    rw [List.map_cons, fetch_unheld unheld, others none.2]

theorem dispatchFrom_eq {limit : Nat} {index : Nat} {dispatched : List Nat} {seats : List (Seat P)}
    (fit : (dispatched ++ heldFrom index seats).length ≤ limit) :
    dispatchFrom limit index dispatched seats =
      (seats.map Seat.fetch, dispatched ++ heldFrom index seats) := by
  induction seats generalizing index dispatched with
  | nil => simp [dispatchFrom, heldFrom]
  | cons s rest others =>
    rw [dispatchFrom]
    split
    next full =>
      have none : heldFrom index (s :: rest) = [] := by
        rw [List.length_append, full] at fit
        exact List.eq_nil_of_length_eq_zero (by omega)
      rw [none, List.append_nil, map_fetch_unheld none]
    next =>
      have same : (if s.isHeld then dispatched ++ [index] else dispatched) ++
          heldFrom (index + 1) rest = dispatched ++ heldFrom index (s :: rest) := by
        rw [heldFrom_cons]
        split <;> simp
      rw [others (same ▸ fit), same]
      rfl

theorem heldFrom_hits (lawful : r.Lawful sources width) (early : r.phase.isEarly = true) :
    heldFrom 0 (r.seats.take r.cutoff.firstOpen) = r.cutoff.hits := by
  have inside : r.cutoff.firstOpen ≤ r.seats.length := by
    rw [lawful.controlled.launched.length, ← lawful.decided.length]
    exact lawful.decided.walked.inside
  rw [heldFrom, List.length_take_of_le inside, ← List.range_eq_range',
    ← filter_held_eq_hits lawful.decided early]
  refine List.filter_congr fun j member => ?_
  rw [Nat.sub_zero, seatAt, List.getElem?_take_of_lt (List.mem_range.mp member), seat]

theorem dispatchEach_eq (lawful : r.Lawful sources width) (early : r.phase.isEarly = true) :
    r.dispatchEach = r.dispatch := by
  have hits := heldFrom_hits lawful early
  have fit : ([] ++ heldFrom 0 (r.seats.take r.cutoff.firstOpen)).length ≤ r.request.limit := by
    rw [List.nil_append, hits, lawful.decided.walked.length_hits]
    exact Nat.le_trans (found_le_room lawful) (Nat.min_le_left _ _)
  rw [dispatchEach, dispatchFrom_eq fit, List.nil_append, hits, dispatch,
    chosen_eq_hits lawful.decided early]

theorem held_iff (lawful : r.Lawful sources width) (early : r.phase.isEarly = true)
    (below : i < r.cutoff.firstOpen) (payload : P) :
    r.seat i = .held payload ↔ probeAt sources i = .done { found := true, payload } := by
  refine ⟨fun seat => Seat.sound_at lawful.sound seat, fun done => ?_⟩
  have hit := lawful.decided.hit below done
  rw [← chosen_eq_hits lawful.decided early, mem_chosen lawful.decided early] at hit
  have held := hit.2
  cases seat : seatAt r.seats i with
  | held other =>
    have truth : probeAt sources i = _ := Seat.sound_at lawful.sound seat
    rw [done] at truth
    cases truth
    exact seat
  | _ => simp [seat, Seat.isHeld] at held

end Run

namespace Runs

/-- A run is sent one report of each repository at most, and one result of each match below its
cutoff; so many places its mailboxes have, and with no more of them it goes the same way. Once its
cutoff is settled and no probe has failed, it holds below it the matches that the cutoff counts, and
the loop over them, which stops at the limit, starts the fetches of them all. -/
theorem workers_never_wait (sources : Nat -> List (Source P)) (maxProbes nextLimit : Nat)
    (turns : List Turn) (k : Nat) (r : Run P)
    (there : ((idle maxProbes nextLimit).play sources turns).1.runs[k]? = some r) :
    let range := (sources k).drop r.offset
    let reports := (idle maxProbes nextLimit).tally sources Run.publishes k turns
    let results := (idle maxProbes nextLimit).tally sources Run.delivers k turns
    (r.reportRoom = range.length ∧ reports.Nodup ∧
      ∀ m, (reports ++ r.publishes range m).length ≤ r.reportRoom) ∧
      (results.Nodup ∧ ∀ m, (results ++ r.delivers range m).length ≤ r.cutoff.found) ∧
      r.cutoff.found ≤ min r.request.limit r.cutoff.firstOpen ∧
      (∀ moves, r.playWithin range moves = r.play range moves) ∧
      (r.phase = .decided none ∨ r.phase = .closing none ->
        (∀ i < r.cutoff.firstOpen, ∀ payload,
          r.seat i = .held payload ↔ probeAt range i = .done { found := true, payload }) ∧
        ((List.range r.cutoff.firstOpen).filter fun i => (r.seat i).isHeld).length =
          r.cutoff.found ∧
        r.dispatchEach = r.dispatch ∧
        ∀ i, i ∈ r.chosen ↔ i < r.cutoff.firstOpen ∧ (r.seat i).isHeld = true) := by
  intro range reports results
  obtain ⟨request, moves, begun, same, told⟩ :=
    tally_begun sources maxProbes nextLimit turns k r there
  have lawful := Run.play_lawful _ begun moves
  have posted := (Run.Posted.start (P := P) ((sources k).map Source.name) request (max maxProbes 1)
    nextLimit).play begun moves
  rw [← same] at lawful posted
  rw [← told Nat Run.publishes, ← told Nat Run.delivers, List.nil_append, List.nil_append] at posted
  refine ⟨⟨lawful.length, posted.once, posted.reports_le lawful⟩,
    ⟨posted.onceEach, posted.results_le lawful⟩, Run.found_le_room lawful,
    Run.playWithin_eq posted lawful, fun settled => ?_⟩
  have early : r.phase.isEarly = true := by
    rcases settled with phase | phase <;> (rw [phase]; rfl)
  refine ⟨fun i => Run.held_iff lawful early, ?_, Run.dispatchEach_eq lawful early,
    Run.mem_chosen lawful.decided early⟩
  rw [Run.filter_held_eq_hits lawful.decided early, lawful.decided.walked.length_hits]

-- The first and the third probe find matches, and the fourth one finds a match that does not fit on
-- the page.
def oneTooMany : List (Source Nat) :=
  [{ name := "a", probe := .done { found := true, payload := 1 }, fetch := fun _ => .done {} },
    { name := "b", probe := .done { found := false, payload := 2 }, fetch := fun _ => .lost },
    { name := "c", probe := .done { found := true, payload := 3 }, fetch := fun _ => .done {} },
    { name := "d", probe := .done { found := true, payload := 4 }, fetch := fun _ => .done {} }]

-- All reports are sent before the first one is received.
def allReported : List Turn :=
  .begin { query := "q", limit := 2 } ::
    List.map (Turn.move 0) (Move.opening 4 ++ [.endProbe 3, .endProbe 0, .endProbe 2, .endProbe 1,
      .advance, .advance, .advance, .advance, .advance, .launch])

theorem allReported_room :
    ∃ r, ((idle 4 9).play (fun _ => oneTooMany) allReported).1.runs[0]? = some r ∧
      r.seat 3 = .held 4 ∧ r.chosen = [0, 2] ∧ r.cutoff.found = 2 ∧ r.dispatchEach = r.dispatch ∧
      r.playWithin oneTooMany [.advance, .endFetch 2, .endFetch 0] =
        r.play oneTooMany [.advance, .endFetch 2, .endFetch 0] ∧
      (r.play oneTooMany [.advance, .endFetch 2, .endFetch 0]).1.results.length = r.resultRoom := by
  have stands : (((idle 4 9).play (fun _ => oneTooMany) allReported).1.runs[0]?.map fun r =>
      (r.phase, r.offset, r.seat 3, r.chosen, r.cutoff.found, r.resultRoom,
        (r.play oneTooMany [.advance, .endFetch 2, .endFetch 0]).1.results.length)) =
      some (.closing none, 0, .held 4, [0, 2], 2, 2, 2) := by
    rfl
  obtain ⟨r, there, stands⟩ := Option.map_eq_some_iff.mp stands
  simp only [Prod.mk.injEq] at stands
  obtain ⟨phase, offset, held, chosen, counted, room, sent⟩ := stands
  have never := workers_never_wait (fun _ => oneTooMany) 4 9 allReported 0 r there
  rw [offset, List.drop_zero] at never
  obtain ⟨-, -, -, within, settled⟩ := never
  exact ⟨r, there, held, chosen, counted, (settled (.inr phase)).2.2.1, within _, sent.trans room.symm⟩

end Runs

end FleetSearch.Search
