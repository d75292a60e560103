import FleetSearch.Proofs.Search.Settling
import FleetSearch.Proofs.Search.Waiting
import Mathlib.Tactic.IntervalCases

set_option autoImplicit false

namespace FleetSearch.Search

variable {P : Type}

namespace Run

theorem endProbe_seats {r : Run P} {i : Nat} (probing : r.isProbing i = true)
    (ending : Ending (Finding P)) :
    ∃ s, (r.endProbe i ending).seats = r.seats.set i s ∧ s.calls ≤ 1 := by
  unfold endProbe
  rw [if_pos probing]
  cases ending.report? .probe with
  | none => exact ⟨.lost, rfl, by simp [Seat.calls]⟩
  | some report =>
    by_cases listening : r.listening = true
    next => exact ⟨.reported report, by simp [put, listening], Nat.le_refl _⟩
    next => exact ⟨.freed, by simp [put, listening], by simp [Seat.calls]⟩

theorem endFetch_seats {r : Run P} {i : Nat} (fetching : r.isFetching i = true)
    (ending : Ending Harvest) :
    ∃ s, (r.endFetch i ending).seats = r.seats.set i s ∧ s.calls = 0 := by
  unfold endFetch
  rw [if_pos fetching]
  cases ending.report? .fetch with
  | none => exact ⟨.freed, rfl, rfl⟩
  | some result =>
    by_cases hears : isFetchPhase r.phase = true
    next => exact ⟨.fetched result, by simp [put, hears], rfl⟩
    next => exact ⟨.freed, by simp [put, hears], rfl⟩

theorem Step.calls_lt {sources : List (Source P)} {width : Nat} {r next : Run P} {m : Move}
    {events : List (Event P)} (step : Step sources r m events next) (held : r.Controlled width)
    {i : Nat} {s : Seat P} (after : next.seats = r.seats.set i s)
    (less : s.calls < (seatAt r.seats i).calls) (taken : seatAt r.seats i ≠ .waiting) :
    next.calls < r.calls := by
  refine weigh_lt (step.length held) (fun j => (step.goes held j).calls_le) (i := i) ?_
  rwa [after, seatAt_set_self (lt_length_of_seatAt taken)]

theorem seat_of_isProbing {r : Run P} {i : Nat} (probing : r.isProbing i = true) :
    seatAt r.seats i = .probing := by
  unfold isProbing Seat.isProbing at probing
  split at probing <;> simp_all [Run.seat, seatAt]

theorem move_endProbe_calls (sources : List (Source P)) {width : Nat} {r : Run P}
    (held : r.Controlled width) {i : Nat} (probing : r.isProbing i = true) :
    (r.move sources (.endProbe i)).1.calls < r.calls := by
  have step := move_step sources r (.endProbe i)
  have seat := seat_of_isProbing probing
  obtain ⟨s, seats, fewer⟩ := endProbe_seats probing (probeAt sources i)
  refine step.calls_lt held seats ?_ (by simp [seat])
  rw [seat, Seat.calls]
  omega

theorem move_endFetch_calls (sources : List (Source P)) {width : Nat} {r : Run P}
    (held : r.Controlled width) {i : Nat} {payload : P} (seat : seatAt r.seats i = .fetching payload) :
    (r.move sources (.endFetch i)).1 = r.endFetch i (fetchAt sources i payload) ∧
      (r.move sources (.endFetch i)).1.calls < r.calls := by
  have step := move_step sources r (.endFetch i)
  have moved : (r.move sources (.endFetch i)).1 = r.endFetch i (fetchAt sources i payload) := by
    simp [move, show r.seat i = _ from seat]
  have fetching : r.isFetching i = true := by
    rw [isFetching, show r.seat i = _ from seat]
    rfl
  obtain ⟨s, seats, none⟩ := endFetch_seats fetching (fetchAt sources i payload)
  refine ⟨moved, step.calls_lt held (moved ▸ seats) ?_ (by simp [seat])⟩
  rw [seat, none, Seat.calls]
  exact Nat.one_pos

theorem play_calls {sources : List (Source P)} {width : Nat} {r : Run P}
    (held : r.Controlled width) (moves : List Move) : (r.play sources moves).1.calls ≤ r.calls := by
  induction moves generalizing r with
  | nil => exact Nat.le_refl _
  | cons m rest ih =>
    have step := move_step sources r m
    exact Nat.le_trans (ih (step.controlled held)) (step.calls_le held)

theorem play_controlled {sources : List (Source P)} {width : Nat} {r : Run P}
    (held : r.Controlled width) (moves : List Move) : (r.play sources moves).1.Controlled width := by
  induction moves generalizing r with
  | nil => exact held
  | cons m rest ih => exact ih ((move_step sources r m).controlled held)

theorem Step.wanted {sources : List (Source P)} {r next : Run P} {m : Move}
    {events : List (Event P)} (step : Step sources r m events next) (own : m ≠ .abort)
    (wanted : r.phase ≠ .aborted) : next.phase ≠ .aborted := by
  cases step with
  | abandon | abandonFetches | abandonFailure => exact absurd rfl own
  | idle | release | take | spawn | leave | call | record | strayReport | reap | reaped | strayResult
    | loseProbe | report | missReport | bring | missResult => exact wanted
  | _ => nofun

theorem play_wanted {sources : List (Source P)} {r : Run P} {moves : List Move}
    (own : .abort ∉ moves) (wanted : r.phase ≠ .aborted) :
    (r.play sources moves).1.phase ≠ .aborted := by
  induction moves generalizing r with
  | nil => exact wanted
  | cons m rest ih =>
    obtain ⟨other, own⟩ := not_or.mp (mt List.mem_cons.mpr own)
    exact ih own ((move_step sources r m).wanted (Ne.symm other) wanted)

theorem seat_of_isFetching {r : Run P} {i : Nat} (fetching : r.isFetching i = true) :
    ∃ payload, seatAt r.seats i = .fetching payload := by
  unfold isFetching Seat.isFetching at fetching
  split at fetching <;> simp_all [Run.seat, seatAt]

theorem Executes.ends {r : Run P} (executes : r.Executes) (sources : List (Source P)) {width : Nat}
    (held : r.Controlled width) : ∃ m, m ≠ .abort ∧ (r.move sources m).1.calls < r.calls := by
  obtain ⟨i, probing | fetching⟩ := executes
  · exact ⟨.endProbe i, nofun, move_endProbe_calls sources held probing⟩
  · obtain ⟨payload, seat⟩ := seat_of_isFetching fetching
    exact ⟨.endFetch i, nofun, (move_endFetch_calls sources held seat).2⟩

theorem Lawful.finishes {sources : List (Source P)} {width : Nat} {r : Run P}
    (lawful : r.Lawful sources width) (room : 0 < sources.length -> 0 < width)
    (wanted : r.phase ≠ .aborted) :
    ∃ moves outcome, .abort ∉ moves ∧ (r.play sources moves).1.outcome? = some outcome := by
  induction left : r.calls using Nat.strong_induction_on generalizing r with
  | h calls ih =>
    have held := lawful.controlled
    obtain ⟨first, own, settled⟩ := settle_play sources r
    have rests : (r.play sources first).1.next = none := settled ▸ settle_rests held
    have still := play_lawful r lawful first
    have wished : (r.play sources first).1.phase ≠ .aborted := play_wanted own wanted
    have roomy : 0 < (r.play sources first).1.names.length -> 0 < width := still.length ▸ room
    cases ended : (r.play sources first).1.outcome? with
    | some outcome => exact ⟨first, outcome, own, ended⟩
    | none =>
      have executes := (still.awaits roomy rests ended wished).executes roomy
      obtain ⟨m, other, fewer⟩ := executes.ends sources still.controlled
      have less := Nat.lt_of_lt_of_le fewer (play_calls held first)
      have step := move_step sources (r.play sources first).1 m
      obtain ⟨later, outcome, others, done⟩ :=
        ih _ (left ▸ less) (step.lawful still) (step.wanted other wished) rfl
      refine ⟨first ++ m :: later, outcome, by simp [own, others, Ne.symm other], ?_⟩
      rw [play_append]
      exact done

end Run

namespace Runs

theorem change_runs (s : Runs P) (k j : Nat) (f : Run P -> Run P) :
    (s.change k f).1.runs[j]? =
      if k = j then s.runs[j]?.map fun r => (f r).settle.1 else s.runs[j]? := by
  unfold change
  cases there : s.runs[k]? with
  | none =>
    have same := List.modify_eq_self (f := f) (List.getElem?_eq_none_iff.mp there)
    simp only [settleRun, same, there]
    split
    next here => rw [← here, there, Option.map_none]
    next => rfl
  | some r =>
    obtain ⟨inside, _⟩ := List.getElem?_eq_some_iff.mp there
    have now : (s.runs.modify k f)[k]? = some (f r) := by simp [there]
    rw [(settleRun_runs { s with runs := s.runs.modify k f } k (f r) now).1]
    split
    next here =>
      subst here
      rw [List.getElem?_set_self (by simpa using inside), there, Option.map_some]
    next other => simp [List.getElem?_set_ne other, other]

inductive CallEnds (sources : Nat -> List (Source P)) (s : Runs P) (c : Started) : Runs P -> Prop
  | probe (r : Run P) (there : s.runs[c.run]? = some r)
      (probing : r.isProbing (c.repo - r.offset) = true) :
    CallEnds sources s c
      (s.endProbe c (probeAt ((sources c.run).drop r.offset) (c.repo - r.offset))).1
  | fetch (r : Run P) (payload : P) (there : s.runs[c.run]? = some r)
      (seat : r.seat (c.repo - r.offset) = .fetching payload) :
    CallEnds sources s c
      (s.endFetch c (fetchAt ((sources c.run).drop r.offset) (c.repo - r.offset) payload)).1

inductive CallsEnd (sources : Nat -> List (Source P)) : Runs P -> List Started -> Runs P -> Prop
  | stop (s : Runs P) : CallsEnd sources s [] s
  | next (s next last : Runs P) (c : Started) (calls : List Started)
      (first : CallEnds sources s c next) (more : CallsEnd sources next calls last) :
    CallsEnd sources s (c :: calls) last

section

variable {sources : Nat -> List (Source P)} {width : Nat}

theorem change_ended {s : Runs P} {j k : Nat} {f : Run P -> Run P} {r : Run P}
    (there : s.runs[k]? = some r) (held : r.Controlled width) (settled : r.next = none)
    (ended : j = k -> ∃ m, m ≠ .abort ∧ r.move ((sources k).drop r.offset) m = (f r, []) ∧
      (f r).calls < r.calls) :
    ∃ moves, .abort ∉ moves ∧
      let next := (r.play ((sources k).drop r.offset) moves).1
      (s.change j f).1.runs[k]? = some next ∧ next.next = none ∧
        (if j = k then 1 else 0) + next.calls ≤ r.calls := by
  rw [change_runs]
  by_cases own : j = k
  next =>
    obtain ⟨m, stays, moved, less⟩ := ended own
    have step := Run.move_step ((sources k).drop r.offset) r m
    rw [moved] at step
    have still := step.controlled held
    obtain ⟨moves, others, played⟩ := Run.settle_play ((sources k).drop r.offset) (f r)
    have same : (r.play ((sources k).drop r.offset) (m :: moves)).1 = (f r).settle.1 := by
      rw [Run.play, moved, played]
    have fewer : (f r).settle.1.calls ≤ (f r).calls := played ▸ Run.play_calls still moves
    refine ⟨m :: moves, by simp [others, Ne.symm stays], ?_⟩
    rw [same, if_pos own, if_pos own, there]
    exact ⟨rfl, Run.settle_rests still, by omega⟩
  next =>
    rw [if_neg own, if_neg own]
    exact ⟨[], List.not_mem_nil, there, settled, by simp [Run.play]⟩

theorem CallEnds.run {s next : Runs P} {c : Started} (ends : CallEnds sources s c next) {k : Nat}
    {r : Run P} (there : s.runs[k]? = some r) (held : r.Controlled width) (settled : r.next = none) :
    ∃ moves, .abort ∉ moves ∧
      let after := (r.play ((sources k).drop r.offset) moves).1
      next.runs[k]? = some after ∧ after.next = none ∧
        (if c.run = k then 1 else 0) + after.calls ≤ r.calls := by
  cases ends with
  | probe mover first probing =>
    refine change_ended there held settled fun own => ?_
    obtain rfl : mover = r := by simpa [← own, first] using there
    rw [← own]
    exact ⟨.endProbe (c.repo - mover.offset), nofun, rfl,
      Run.move_endProbe_calls _ held probing⟩
  | fetch mover payload first seat =>
    refine change_ended there held settled fun own => ?_
    obtain rfl : mover = r := by simpa [← own, first] using there
    rw [← own]
    obtain ⟨moved, fewer⟩ := Run.move_endFetch_calls ((sources c.run).drop mover.offset) held seat
    refine ⟨.endFetch (c.repo - mover.offset), nofun, ?_, moved ▸ fewer⟩
    simp [Run.move, seat]

theorem CallsEnd.run {s last : Runs P} {calls : List Started} (ends : CallsEnd sources s calls last)
    {k : Nat} {r : Run P} (there : s.runs[k]? = some r) (held : r.Controlled width)
    (settled : r.next = none) :
    ∃ moves, .abort ∉ moves ∧
      let after := (r.play ((sources k).drop r.offset) moves).1
      last.runs[k]? = some after ∧ after.next = none ∧
        (calls.countP fun c => c.run = k) + after.calls ≤ r.calls := by
  induction ends generalizing r with
  | stop s => exact ⟨[], nofun, there, settled, by simp [Run.play]⟩
  | next s next last c calls first more ih =>
    obtain ⟨moves, own, now, rests, fewer⟩ := first.run there held settled
    obtain ⟨later, others, final, still, less⟩ := ih now (Run.play_controlled held moves) rests
    rw [(Run.play_given _ r moves).2.1] at final still less
    refine ⟨moves ++ later, by simp [own, others], ?_⟩
    simp only [Run.play_append, List.countP_cons, decide_eq_true_eq]
    exact ⟨final, still, by omega⟩

end

/-- Run `k` settles. Then it has finished, or was given up, or waits for a call of its own; a page
that is decided waits only for its fetches; and a call of the run can end only so often, in whatever
order, until the run has finished. -/
theorem unfinished_awaits (sources : Nat -> List (Source P)) (maxProbes nextLimit : Nat)
    (turns : List Turn) (k : Nat) (r : Run P)
    (there : ((idle maxProbes nextLimit).play sources turns).1.runs[k]? = some r) :
    let range := (sources k).drop r.offset
    r.settle.1.next = none ∧
      (r.next = none ->
        (r.outcome? = none -> r.phase ≠ .aborted ->
          r.Awaits range (min range.length (max maxProbes 1)) ∧ r.Executes) ∧
        (r.cutoff.settled = true -> r.phase ≠ .aborted -> (∀ i, r.isFetching i = false) ->
          ¬ FetchFails range r.cutoff.firstOpen -> ∃ page, r.outcome? = some (.ok page)) ∧
        ∀ calls last,
          CallsEnd sources ((idle maxProbes nextLimit).play sources turns).1 calls last ->
          (calls.countP fun c => c.run = k) ≤ 2 * range.length ∧
            ∃ after, last.runs[k]? = some after ∧
              (r.phase ≠ .aborted ->
                (∃ outcome, after.outcome? = some outcome) ∨ after.Executes)) := by
  intro range
  obtain ⟨_, reached⟩ := Runs.reached sources maxProbes nextLimit turns k r there
  have lawful := reached.lawful
  have held := lawful.controlled
  refine ⟨Run.settle_rests held, fun settled => ⟨fun unfinished wanted => ?_, ?_, ?_⟩⟩
  · have awaits := lawful.awaits reached.room settled unfinished wanted
    exact ⟨awaits, awaits.executes reached.room⟩
  · exact fun decided wanted => lawful.pages reached.room settled wanted decided
  · intro calls last ends
    obtain ⟨moves, own, now, rests, fewer⟩ := ends.run there held settled
    refine ⟨?_, _, now, fun wanted => ?_⟩
    · have most : r.calls ≤ 2 * r.seats.length := weigh_le_mul Seat.calls_le r.seats
      rw [held.launched.length, lawful.length] at most
      exact Nat.le_trans (Nat.le_trans (Nat.le_add_right _ _) fewer) most
    · have later := Run.play_lawful r lawful moves
      have room : 0 < (r.play range moves).1.names.length ->
          0 < min range.length (max maxProbes 1) := fun more =>
        reached.room (by rwa [later.length, ← lawful.length] at more)
      cases ended : (r.play range moves).1.outcome? with
      | none => exact .inr ((later.awaits room rests ended (Run.play_wanted own wanted)).executes room)
      | some outcome => exact .inl ⟨outcome, rfl⟩

def threeProbes : List Turn :=
  .begin { query := "q", limit := 1 } ::
    List.map (Turn.move 0) (Move.opening 3 ++ [.launch])

-- The second repository fills the page, and the probe of the third one never ends.
def endlessProbe : List Turn :=
  .begin { query := "q", limit := 1 } ::
    List.map (Turn.move 0) (Move.opening 3 ++ [.endProbe 1, .advance, .endProbe 0, .advance,
      .advance, .release 0, .launch, .advance, .endFetch 1, .advance, .release 1, .advance])

theorem endlessProbe_pages :
    (∃ r last after, ((idle 3 9).play (fun _ => oneOfThree) threeProbes).1.runs[0]? = some r ∧
        r.Executes ∧
        CallsEnd (fun _ => oneOfThree) ((idle 3 9).play (fun _ => oneOfThree) threeProbes).1
          [{ call := .probe, run := 0, repo := 1 }] last ∧
        last.runs[0]? = some after ∧
        ((∃ outcome, after.outcome? = some outcome) ∨ after.Executes)) ∧
      ∃ r page, ((idle 3 9).play (fun _ => oneOfThree) endlessProbe).1.runs[0]? = some r ∧
        r.isProbing 2 = true ∧ r.outcome? = some (.ok page) := by
  constructor
  · have stands : (((idle 3 9).play (fun _ => oneOfThree) threeProbes).1.runs[0]?.any fun r =>
        r.isProbing (1 - r.offset) && r.next.isNone && r.outcome?.isNone &&
          r.phase matches .deciding) = true := by
      decide +kernel
    obtain ⟨r, there, stands⟩ := (Option.any_eq_true _ _).mp stands
    simp only [Bool.and_eq_true, Option.isNone_iff_eq_none] at stands
    obtain ⟨⟨⟨probing, settled⟩, unfinished⟩, deciding⟩ := stands
    have wanted : r.phase ≠ .aborted := fun phase => by simp [phase] at deciding
    obtain ⟨awaits, _, goesOn⟩ := (unfinished_awaits (fun _ => oneOfThree) 3 9 threeProbes 0 r
      there).2 settled
    have ends : CallsEnd (fun _ => oneOfThree) _ [{ call := .probe, run := 0, repo := 1 }] _ :=
      .next _ _ _ _ [] (.probe r there probing) (.stop _)
    obtain ⟨_, after, last, onward⟩ := goesOn _ _ ends
    exact ⟨r, _, after, there, (awaits unfinished wanted).2, ends, last, onward wanted⟩
  · have stands : (((idle 3 9).play (fun _ => oneOfThree) endlessProbe).1.runs[0]?.any fun r =>
        r.isProbing 2 && r.next.isNone && r.cutoff.settled && r.outcome?.isSome &&
          r.cutoff.firstOpen == 2 && r.offset == 0 && !r.seats.any Seat.isFetching) = true := by
      decide +kernel
    obtain ⟨r, there, stands⟩ := (Option.any_eq_true _ _).mp stands
    simp only [Bool.and_eq_true, Option.isNone_iff_eq_none, beq_iff_eq, Bool.not_eq_true'] at stands
    obtain ⟨⟨⟨⟨⟨⟨probing, settled⟩, decided⟩, ended⟩, cut⟩, offset⟩, quiet⟩ := stands
    have wanted : r.phase ≠ .aborted := fun phase => by simp [Run.outcome?, phase] at ended
    have fetched : ∀ i, r.isFetching i = false :=
      (any_eq_false_iff Seat.isFetching rfl r.seats).mp quiet
    have bring : ¬ FetchFails (oneOfThree.drop r.offset) r.cutoff.firstOpen := by
      rw [cut, offset]
      rintro ⟨i, below, payload, done, fails⟩
      interval_cases i
      · cases done
      · cases done
        exact fails _ rfl
    obtain ⟨page, paged⟩ := ((unfinished_awaits (fun _ => oneOfThree) 3 9 endlessProbe 0 r there).2
      settled).2.1 decided wanted fetched bring
    exact ⟨r, page, there, probing, paged⟩

end Runs

end FleetSearch.Search
