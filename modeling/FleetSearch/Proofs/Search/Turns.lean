import FleetSearch.Proofs.Search.History

set_option autoImplicit false

/-!
Runs side by side. A coordinator is played by turns: a run begins, a run that goes on makes a move,
or somebody starts to wait for the end. Each run goes its own way, whatever the others do; and what
the coordinator does at once, when a run begins, a call ends or a request is given up, is a list of
turns.
-/

namespace FleetSearch.Search

variable {P : Type}

inductive Turn where
  | begin (request : Request)
  | move (run : Nat) (m : Move)
  | shutdown
deriving DecidableEq

def Turn.request? : Turn -> Option Request
  | .begin request => some request
  | _ => none

def Turn.moveOf (k : Nat) : Turn -> Option Move
  | .move run m => if run = k then some m else none
  | _ => none

def movesOf (k : Nat) (turns : List Turn) : List Move :=
  turns.filterMap (Turn.moveOf k)

def eventsOf (k : Nat) (notices : List (Notice P)) : List (Event P) :=
  notices.filterMap fun n => if n.run = k then some n.event else none

theorem eventsOf_append (k : Nat) (notices more : List (Notice P)) :
    eventsOf k (notices ++ more) = eventsOf k notices ++ eventsOf k more :=
  List.filterMap_append ..

namespace Runs

def go (sources : Nat -> List (Source P)) (s : Runs P) (k : Nat) (m : Move) :
    Runs P × List (Notice P) :=
  match s.runs[k]? with
  | none => (s, [])
  | some r =>
    let next := r.move ((sources k).drop r.offset) m
    s.replace k next.1 next.2

def turn (sources : Nat -> List (Source P)) (s : Runs P) : Turn -> Runs P × List (Notice P)
  | .begin request => (s.enter ((sources s.runs.length).map Source.name) request, [])
  | .move k m => s.go sources k m
  | .shutdown => (s.shutdown, [])

def play (sources : Nat -> List (Source P)) (s : Runs P) : List Turn -> Runs P × List (Notice P)
  | [] => (s, [])
  | t :: rest =>
    let next := s.turn sources t
    let last := next.1.play sources rest
    (last.1, next.2 ++ last.2)

theorem play_append (sources : Nat -> List (Source P)) (s : Runs P) (turns more : List Turn) :
    s.play sources (turns ++ more) =
      (((s.play sources turns).1.play sources more).1,
        (s.play sources turns).2 ++ ((s.play sources turns).1.play sources more).2) := by
  induction turns generalizing s with
  | nil => rfl
  | cons t rest ih => simp [play, ih, List.append_assoc]

theorem replace_runs (s : Runs P) (k : Nat) (r : Run P) (events : List (Event P)) :
    (s.replace k r events).1.runs = s.runs.set k r :=
  rfl

theorem go_none (sources : Nat -> List (Source P)) (s : Runs P) (k : Nat) (m : Move)
    (absent : s.runs[k]? = none) : s.go sources k m = (s, []) := by
  simp [go, absent]

theorem go_some (sources : Nat -> List (Source P)) (s : Runs P) (k : Nat) (m : Move) (r : Run P)
    (there : s.runs[k]? = some r) :
    s.go sources k m = s.replace k (r.move ((sources k).drop r.offset) m).1
      (r.move ((sources k).drop r.offset) m).2 := by
  simp [go, there]

theorem turn_limits (sources : Nat -> List (Source P)) (s : Runs P) (t : Turn) :
    (s.turn sources t).1.maxProbes = s.maxProbes ∧
      (s.turn sources t).1.nextLimit = s.nextLimit := by
  cases t with
  | begin request => exact ⟨rfl, rfl⟩
  | move k m =>
    rw [turn]
    cases there : s.runs[k]? with
    | none => simp [go_none sources s k m there]
    | some r => exact go_some sources s k m r there ▸ ⟨rfl, rfl⟩
  | shutdown => exact ⟨rfl, rfl⟩

theorem play_limits (sources : Nat -> List (Source P)) (s : Runs P) (turns : List Turn) :
    (s.play sources turns).1.maxProbes = s.maxProbes ∧
      (s.play sources turns).1.nextLimit = s.nextLimit := by
  induction turns generalizing s with
  | nil => exact ⟨rfl, rfl⟩
  | cons t rest ih =>
    obtain ⟨probes, proposes⟩ := turn_limits sources s t
    obtain ⟨still, offers⟩ := ih (s.turn sources t).1
    exact ⟨still.trans probes, offers.trans proposes⟩

theorem eventsOf_replace (s : Runs P) (k j : Nat) (r : Run P) (events : List (Event P)) :
    eventsOf k (s.replace j r events).2 =
      if j = k then events.map (Event.shift r.offset) else [] := by
  unfold replace eventsOf
  rw [List.filterMap_map]
  by_cases same : j = k
  next =>
    rw [if_pos same, ← List.filterMap_eq_map]
    congr 1
    funext e
    simp [same]
  next => simp [same]

theorem turn_other (sources : Nat -> List (Source P)) (s : Runs P) (t : Turn) (k : Nat) (r : Run P)
    (there : s.runs[k]? = some r) (other : t.moveOf k = none) :
    (s.turn sources t).1.runs[k]? = some r ∧ eventsOf k (s.turn sources t).2 = [] := by
  cases t with
  | begin request =>
    obtain ⟨inside, _⟩ := List.getElem?_eq_some_iff.mp there
    refine ⟨?_, rfl⟩
    simpa [turn, enter, List.getElem?_append_left inside] using there
  | shutdown => exact ⟨there, rfl⟩
  | move j m =>
    have apart : j ≠ k := by simpa [Turn.moveOf] using other
    rw [turn]
    cases first : s.runs[j]? with
    | none =>
      rw [go_none sources s j m first]
      exact ⟨there, rfl⟩
    | some mover =>
      rw [go_some sources s j m mover first, eventsOf_replace, if_neg apart, replace_runs,
        List.getElem?_set_ne apart]
      exact ⟨there, rfl⟩

theorem play_run (sources : Nat -> List (Source P)) (s : Runs P) (turns : List Turn) (k : Nat)
    (r : Run P) (there : s.runs[k]? = some r) :
    (s.play sources turns).1.runs[k]? =
        some (r.play ((sources k).drop r.offset) (movesOf k turns)).1 ∧
      eventsOf k (s.play sources turns).2 =
        (r.play ((sources k).drop r.offset) (movesOf k turns)).2.map (Event.shift r.offset) := by
  induction turns generalizing s r with
  | nil => exact ⟨there, rfl⟩
  | cons t rest ih =>
    simp only [play, eventsOf_append]
    cases own : t.moveOf k with
    | none =>
      obtain ⟨still, silent⟩ := turn_other sources s t k r there own
      obtain ⟨last, told⟩ := ih _ r still
      simp [movesOf, own, last, told, silent]
    | some m =>
      obtain rfl : t = .move k m := by
        cases t <;> simp_all [Turn.moveOf]
      have step := Run.move_step ((sources k).drop r.offset) r m
      obtain ⟨inside, _⟩ := List.getElem?_eq_some_iff.mp there
      have moved : s.turn sources (.move k m) =
          s.replace k (r.move ((sources k).drop r.offset) m).1
            (r.move ((sources k).drop r.offset) m).2 := by
        rw [turn, go_some sources s k m r there]
      have now : (s.turn sources (.move k m)).1.runs[k]? =
          some (r.move ((sources k).drop r.offset) m).1 := by
        rw [moved, replace_runs, List.getElem?_set_self inside]
      obtain ⟨last, told⟩ := ih _ _ now
      rw [step.given.2.2.1] at last told
      refine ⟨?_, ?_⟩
      · simpa [movesOf, own, Run.play] using last
      · rw [told, moved, eventsOf_replace, if_pos rfl, step.given.2.2.1]
        simp [movesOf, own, Run.play]

theorem play_later (sources : Nat -> List (Source P)) (s : Runs P) (turns later : List Turn)
    (k : Nat) (r : Run P) (there : (s.play sources turns).1.runs[k]? = some r) :
    (s.play sources (turns ++ later)).1.runs[k]? =
      some (r.play ((sources k).drop r.offset) (movesOf k later)).1 := by
  rw [play_append]
  exact (play_run sources _ later k r there).1

theorem play_begun (sources : Nat -> List (Source P)) (s : Runs P) (turns : List Turn) (k : Nat)
    (r : Run P) (later : s.runs.length ≤ k) (there : (s.play sources turns).1.runs[k]? = some r) :
    ∃ request moves, (turns.filterMap Turn.request?)[k - s.runs.length]? = some request ∧
      let start : Run P :=
        Run.start ((sources k).map Source.name) request s.maxProbes s.nextLimit
      r = (start.play ((sources k).drop start.offset) moves).1 ∧
        eventsOf k (s.play sources turns).2 =
          (start.play ((sources k).drop start.offset) moves).2.map (Event.shift start.offset) := by
  induction turns generalizing s with
  | nil => simp [play, List.getElem?_eq_none later] at there
  | cons t rest ih =>
    obtain ⟨probes, proposes⟩ := turn_limits sources s t
    simp only [play, eventsOf_append] at there ⊢
    cases t with
    | begin request =>
      by_cases own : s.runs.length = k
      next =>
        subst own
        have now : (s.turn sources (.begin request)).1.runs[s.runs.length]? =
            some (Run.start ((sources s.runs.length).map Source.name) request s.maxProbes
              s.nextLimit) := by
          simp [turn, enter]
        obtain ⟨last, told⟩ := play_run sources _ rest _ _ now
        refine ⟨request, movesOf s.runs.length rest, by simp [Turn.request?], ?_, ?_⟩
        · exact Option.some.inj (there.symm.trans last)
        · simpa [turn, eventsOf] using told
      next =>
        have longer : (s.turn sources (.begin request)).1.runs.length = s.runs.length + 1 := by
          simp [turn, enter]
        have place : k - s.runs.length = k - (s.runs.length + 1) + 1 := by omega
        obtain ⟨first, moves, asked, same, told⟩ := ih _ (by omega) there
        rw [probes, proposes] at same told
        rw [longer] at asked
        exact ⟨first, moves, by simpa [Turn.request?, place] using asked, same, told⟩
    | shutdown =>
      exact ih (s.turn sources .shutdown).1 later there
    | move j m =>
      rw [turn] at there probes proposes ⊢
      cases mover : s.runs[j]? with
      | none =>
        rw [go_none sources s j m mover] at there ⊢
        exact ih s later there
      | some r =>
        obtain ⟨inside, _⟩ := List.getElem?_eq_some_iff.mp mover
        have apart : j ≠ k := by omega
        have moved := go_some sources s j m r mover
        have length : (s.go sources j m).1.runs.length = s.runs.length := by
          rw [moved, replace_runs, List.length_set]
        obtain ⟨first, moves, asked, same, told⟩ := ih _ (by omega) there
        rw [probes, proposes] at same told
        rw [length] at asked
        refine ⟨first, moves, asked, same, ?_⟩
        rw [told, moved, eventsOf_replace, if_neg apart, List.nil_append]

structure Reached (sources : List (Source P)) (maxProbes nextLimit : Nat) (events : List (Event P))
    (r : Run P) : Prop where
  offset : r.offset = min r.request.offset sources.length
  nextLimit : r.nextLimit = nextLimit
  lawful : r.Lawful (sources.drop r.offset) (min (sources.drop r.offset).length maxProbes)
  told : ∃ own, events = own.map (Event.shift r.offset) ∧
    ∀ i, (seatAt r.seats i).Told (sources.drop r.offset) i (about i own)

theorem start_reached (sources : List (Source P)) (request : Request) (maxProbes nextLimit : Nat)
    (moves : List Move) :
    let start : Run P := Run.start (sources.map Source.name) request maxProbes nextLimit
    let last := start.play (sources.drop start.offset) moves
    last.1.request = request ∧
      Reached sources maxProbes nextLimit (last.2.map (Event.shift start.offset)) last.1 := by
  intro start last
  have lawful := Run.start_lawful sources request maxProbes nextLimit
  obtain ⟨own, place, proposes⟩ := Run.start_given (P := P) (sources.map Source.name) request
    maxProbes nextLimit
  have waiting := Run.start_seats (P := P) (sources.map Source.name) request maxProbes nextLimit
  rw [List.length_map] at place
  rw [← place] at lawful
  obtain ⟨same, stays, offers⟩ := Run.play_given (sources.drop start.offset) start moves
  refine ⟨same.trans own, ?_, offers.trans proposes, ?_, last.2, ?_, fun i => ?_⟩
  · exact (stays.trans place).trans (by rw [same.trans own])
  · rw [stays]
    exact Run.play_lawful start lawful moves
  · rw [stays]
  · have told : (seatAt start.seats i).Told (sources.drop start.offset) i (about i []) := by
      rw [waiting]
      rfl
    rw [stays]
    simpa using Run.play_told start lawful [] i told moves

theorem reached (sources : Nat -> List (Source P)) (maxProbes nextLimit : Nat) (turns : List Turn)
    (k : Nat) (r : Run P)
    (there : ((idle maxProbes nextLimit).play sources turns).1.runs[k]? = some r) :
    (turns.filterMap Turn.request?)[k]? = some r.request ∧
      Reached (sources k) (max maxProbes 1) nextLimit
        (eventsOf k ((idle maxProbes nextLimit).play sources turns).2) r := by
  obtain ⟨request, moves, asked, same, told⟩ :=
    play_begun sources _ turns k r (Nat.zero_le _) there
  obtain ⟨own, reached⟩ := start_reached (sources k) request (max maxProbes 1) nextLimit moves
  subst same
  exact ⟨asked.trans (congrArg some own.symm), told ▸ reached⟩

theorem play_moves (sources : Nat -> List (Source P)) (s : Runs P) (k : Nat) (r : Run P)
    (there : s.runs[k]? = some r) (moves : List Move) :
    (s.play sources (moves.map (Turn.move k))).1.runs =
        s.runs.set k (r.play ((sources k).drop r.offset) moves).1 ∧
      (s.play sources (moves.map (Turn.move k))).2 =
        (r.play ((sources k).drop r.offset) moves).2.map fun e =>
          { run := k, event := e.shift r.offset } := by
  obtain ⟨inside, here⟩ := List.getElem?_eq_some_iff.mp there
  induction moves generalizing s r with
  | nil => simp [play, Run.play, ← here]
  | cons m rest ih =>
    have offset := (Run.move_step ((sources k).drop r.offset) r m).given.2.2.1
    have moved := go_some sources s k m r there
    have length : k < (s.go sources k m).1.runs.length := by
      rw [moved, replace_runs, List.length_set]
      exact inside
    have now : (s.go sources k m).1.runs[k]? = some (r.move ((sources k).drop r.offset) m).1 := by
      rw [moved, replace_runs, List.getElem?_set_self inside]
    obtain ⟨runs, notices⟩ := ih _ _ now length (List.getElem?_eq_some_iff.mp now).2
    rw [offset] at runs notices
    constructor
    · simp only [List.map_cons, play, turn, Run.play, runs]
      rw [moved, replace_runs, List.set_set]
    · simp only [List.map_cons, play, turn, Run.play, notices, List.map_append]
      rw [moved]
      simp [replace, offset]

theorem settleRun_runs (s : Runs P) (k : Nat) (r : Run P) (there : s.runs[k]? = some r) :
    (s.settleRun k).1.runs = s.runs.set k r.settle.1 ∧
      (s.settleRun k).2 = r.settle.2.map fun e =>
        { run := k, event := e.shift r.settle.1.offset } := by
  simp [settleRun, there, replace]

theorem settleRun_turns (sources : Nat -> List (Source P)) (s after : Runs P) (k : Nat)
    (same : s.runs = after.runs) :
    ∃ turns, (s.play sources turns).1.runs = (after.settleRun k).1.runs ∧
      (s.play sources turns).2 = (after.settleRun k).2 := by
  cases there : after.runs[k]? with
  | none => exact ⟨[], by simp [play, settleRun, there, same], by simp [play, settleRun, there]⟩
  | some r =>
    obtain ⟨moves, _, settled⟩ := Run.settle_play ((sources k).drop r.offset) r
    obtain ⟨runs, notices⟩ := play_moves sources s k r (same ▸ there) moves
    obtain ⟨last, told⟩ := settleRun_runs after k r there
    refine ⟨moves.map (Turn.move k), ?_, ?_⟩
    · rw [runs, last, settled, same]
    · rw [notices, told, settled, (Run.play_given _ r moves).2.1]

theorem begin_turns (sources : Nat -> List (Source P)) (s : Runs P) (request : Request) :
    ∃ turns, (s.play sources turns).1.runs =
        (s.begin ((sources s.runs.length).map Source.name) request).1.runs ∧
      (s.play sources turns).2 =
        (s.begin ((sources s.runs.length).map Source.name) request).2 := by
  obtain ⟨turns, runs, notices⟩ := settleRun_turns sources
    (s.enter ((sources s.runs.length).map Source.name) request) _ s.runs.length rfl
  exact ⟨.begin request :: turns, runs, notices⟩

theorem change_turns (sources : Nat -> List (Source P)) (s : Runs P) (k : Nat)
    (f : Run P -> Run P) (m : Move)
    (moves : ∀ r, s.runs[k]? = some r -> r.move ((sources k).drop r.offset) m = (f r, [])) :
    ∃ turns, (s.play sources turns).1.runs = (s.change k f).1.runs ∧
      (s.play sources turns).2 = (s.change k f).2 := by
  have same : (s.go sources k m).1.runs = s.runs.modify k f ∧ (s.go sources k m).2 = [] := by
    cases there : s.runs[k]? with
    | none =>
      rw [go_none sources s k m there]
      refine ⟨?_, rfl⟩
      rw [List.modify_eq_self (List.getElem?_eq_none_iff.mp there)]
    | some r =>
      rw [go_some sources s k m r there, moves r there, replace_runs]
      refine ⟨?_, rfl⟩
      obtain ⟨inside, here⟩ := List.getElem?_eq_some_iff.mp there
      rw [List.modify_eq_set_getElem?, there]
      rfl
  obtain ⟨turns, runs, notices⟩ := settleRun_turns sources (s.go sources k m).1
    { s with runs := s.runs.modify k f } k same.1
  refine ⟨.move k m :: turns, runs, ?_⟩
  rw [play, turn, same.2]
  exact notices

theorem endProbe_turns (sources : Nat -> List (Source P)) (s : Runs P) (c : Started)
    (ending : Ending (Finding P))
    (own : ∀ r, s.runs[c.run]? = some r ->
      ending = probeAt ((sources c.run).drop r.offset) (c.repo - r.offset)) :
    ∃ turns, (s.play sources turns).1.runs = (s.endProbe c ending).1.runs ∧
      (s.play sources turns).2 = (s.endProbe c ending).2 := by
  cases there : s.runs[c.run]? with
  | none =>
    refine change_turns sources s c.run _ .advance fun r here => ?_
    simp [there] at here
  | some r =>
    refine change_turns sources s c.run _ (.endProbe (c.repo - r.offset)) fun other here => ?_
    obtain rfl : r = other := by simpa [there] using here
    rw [own r there]
    rfl

theorem endFetch_turns (sources : Nat -> List (Source P)) (s : Runs P) (c : Started)
    (ending : Ending Harvest)
    (own : ∀ r payload, s.runs[c.run]? = some r -> r.seat (c.repo - r.offset) = .fetching payload ->
      ending = fetchAt ((sources c.run).drop r.offset) (c.repo - r.offset) payload) :
    ∃ turns, (s.play sources turns).1.runs = (s.endFetch c ending).1.runs ∧
      (s.play sources turns).2 = (s.endFetch c ending).2 := by
  cases there : s.runs[c.run]? with
  | none =>
    refine change_turns sources s c.run _ .advance fun r here => ?_
    simp [there] at here
  | some r =>
    refine change_turns sources s c.run _ (.endFetch (c.repo - r.offset)) fun other here => ?_
    obtain rfl : r = other := by simpa [there] using here
    cases seat : r.seat (c.repo - r.offset) with
    | fetching payload => simp [Run.move, seat, own r payload there seat]
    | _ => simp [Run.move, Run.endFetch, Run.isFetching, seat, Seat.isFetching]

theorem abort_turns (sources : Nat -> List (Source P)) (s : Runs P) (k : Nat) :
    ∃ turns, (s.play sources turns).1.runs = (s.abort k).1.runs ∧
      (s.play sources turns).2 = (s.abort k).2 :=
  change_turns sources s k Run.abort .abort fun _ _ => rfl

end Runs

end FleetSearch.Search
