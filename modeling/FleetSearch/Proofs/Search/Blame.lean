import FleetSearch.Proofs.Search.Receipts
import FleetSearch.Proofs.Search.Page

set_option autoImplicit false

namespace FleetSearch.Search

variable {P : Type}

/-- The call came to its end without an answer, and this is what is told of it: all causes of its
error, outermost first, or the text of its panic. -/
def Ending.Breaks {A : Type} (call : Call) (message : String) (ending : Ending A) : Prop :=
  (∃ causes, ending = .failed causes ∧ message = ": ".intercalate causes) ∨
    ∃ text : Option String, ending = .panicked text ∧
      message = (if call = .probe then "probe panicked: " else "fetch panicked: ") ++
        text.getD "unknown panic"

theorem Ending.breaks_of_report {A : Type} {call : Call} {message : String} {ending : Ending A}
    (reports : ending.report? call = some (.error message)) : ending.Breaks call message := by
  cases ending with
  | done a => simp [report?] at reports
  | failed causes => exact .inl ⟨causes, rfl, by simpa [report?, causeLine] using reports.symm⟩
  | panicked text =>
    have opening : call.name ++ " panicked: " =
        if call = .probe then "probe panicked: " else "fetch panicked: " := by
      cases call <;> decide
    refine .inr ⟨text, rfl, ?_⟩
    rw [← opening]
    simpa [report?] using reports.symm
  | lost => simp [report?] at reports

namespace Run

namespace Step

variable {sources : List (Source P)} {width : Nat} {r next : Run P} {m : Move}
  {events : List (Event P)}

theorem cutoff_of_settled (step : Step sources r m events next) (lawful : r.Lawful sources width)
    (settled : r.cutoff.settled = true) : next.cutoff = r.cutoff := by
  have unsettled := lawful.decided.unsettled
  cases step with
  | settle i rest finding phase => simp [unsettled phase] at settled
  | record i rest finding phase => simp [unsettled phase] at settled
  | _ => rfl

theorem settled_of_fetch (step : Step sources r m events next) (lawful : r.Lawful sources width)
    {i : Nat} {payload : P} (fetches : .fetch i payload ∈ events) : next.cutoff.settled = true := by
  cases step with
  | dispatch phase gone => exact lawful.decided.settled (.inr (.inl phase))
  | release | call => simp at fetches
  | _ => cases fetches

end Step

theorem play_cutoff {sources : List (Source P)} {width : Nat} {r : Run P}
    (lawful : r.Lawful sources width) (settled : r.cutoff.settled = true) (moves : List Move) :
    (r.play sources moves).1.cutoff = r.cutoff := by
  induction moves generalizing r with
  | nil => rfl
  | cons m rest ih =>
    have step := move_step sources r m
    have same := step.cutoff_of_settled lawful settled
    exact (ih (step.lawful lawful) (by rwa [same])).trans same

theorem play_fetches {sources : List (Source P)} {width : Nat} {r : Run P}
    (lawful : r.Lawful sources width) (moves : List Move) {i : Nat} {payload : P}
    (fetches : .fetch i payload ∈ (r.play sources moves).2) :
    (r.play sources moves).1.cutoff.settled = true := by
  induction moves generalizing r with
  | nil => cases fetches
  | cons m rest ih =>
    have step := move_step sources r m
    have after := step.lawful lawful
    rcases List.mem_append.mp fetches with now | later
    · have settled := step.settled_of_fetch lawful now
      rwa [play, play_cutoff after settled]
    · exact ih after later

/-- Why a run failed that received `log`. -/
inductive Cause (sources : List (Source P)) (r : Run P) (log : List (Receipt P)) : Failure -> Prop
  | probe (i : Nat) (message : String) (cutoff : Cutoff)
      (first : log.find? Receipt.isError =
        some { cutoff, message := .report i (.error message) })
      (breaks : (probeAt sources i).Breaks .probe message)
      (early : cutoff.settled = false) (undecided : r.cutoff.settled = false) :
    Cause sources r log (.probe (nameAt sources i) message)
  | fetch (i : Nat) (payload : P) (message : String) (cutoff : Cutoff)
      (first : log.find? Receipt.isError =
        some { cutoff, message := .result i (.error message) })
      (decided : r.cutoff.settled = true) (below : i < r.cutoff.firstOpen)
      (found : probeAt sources i = .done { found := true, payload })
      (breaks : (fetchAt sources i payload).Breaks .fetch message) :
    Cause sources r log (.fetch (nameAt sources i) message)
  | lostProbe (i : Nat) (silent : ∀ receipt ∈ log, receipt.isError = false)
      (undecided : r.cutoff.settled = false) (inside : i < sources.length)
      (seat : seatAt r.seats i = .lost) (lost : probeAt sources i = .lost)
      (before : ∀ j < i, ∃ finding, probeAt sources j = .done finding ∧
        ∃ receipt ∈ log, receipt.message = .report j (.ok finding)) :
    Cause sources r log (.workerLost (nameAt sources i))
  | lostFetch (i : Nat) (payload : P) (silent : ∀ receipt ∈ log, receipt.isError = false)
      (decided : r.cutoff.settled = true) (below : i < r.cutoff.firstOpen)
      (found : probeAt sources i = .done { found := true, payload })
      (lost : fetchAt sources i payload = .lost)
      (before : ∀ j < i, ∀ payload, probeAt sources j = .done { found := true, payload } ->
        ∃ harvest, fetchAt sources j payload = .done harvest) :
    Cause sources r log (.workerLost (nameAt sources i))

theorem Cause.inside {sources : List (Source P)} {r : Run P} {log : List (Receipt P)}
    {failure : Failure} (cause : Cause sources r log failure) :
    ∃ i < sources.length, failure.repo = nameAt sources i := by
  have within : ∀ i, probeAt sources i ≠ .lost -> i < sources.length := by
    intro i alive
    by_contra outside
    exact alive (by simp [probeAt, List.getElem?_eq_none (Nat.le_of_not_lt outside)])
  cases cause with
  | probe i message cutoff first breaks =>
    refine ⟨i, within i fun lost => ?_, rfl⟩
    simp [Ending.Breaks, lost] at breaks
  | fetch i payload message cutoff first decided below found =>
    exact ⟨i, within i fun lost => by simp [found] at lost, rfl⟩
  | lostProbe i silent undecided inside => exact ⟨i, inside, rfl⟩
  | lostFetch i payload silent decided below found =>
    exact ⟨i, within i fun lost => by simp [found] at lost, rfl⟩

theorem Cause.next {sources : List (Source P)} {r next : Run P} {log more : List (Receipt P)}
    {failure : Failure} (cause : Cause sources r log failure) (cutoff : next.cutoff = r.cutoff)
    (lost : ∀ i, seatAt r.seats i = .lost -> seatAt next.seats i = .lost)
    (calm : (∀ receipt ∈ more, receipt.isError = false) ∨
      ∃ repo message, failure = .fetch repo message) :
    Cause sources next (log ++ more) failure := by
  have still : ∀ {receipt}, log.find? Receipt.isError = some receipt ->
      (log ++ more).find? Receipt.isError = some receipt := by
    intro receipt first
    rw [List.find?_append, first, Option.some_or]
  have quiet : (∀ receipt ∈ log, receipt.isError = false) ->
      (∀ receipt ∈ more, receipt.isError = false) ->
      ∀ receipt ∈ log ++ more, receipt.isError = false := by
    intro old new receipt member
    exact (List.mem_append.mp member).elim (old receipt) (new receipt)
  cases cause with
  | probe i message stood first breaks early undecided =>
    exact .probe i message stood (still first) breaks early (cutoff ▸ undecided)
  | fetch i payload message stood first decided below found breaks =>
    exact .fetch i payload message stood (still first) (cutoff ▸ decided) (cutoff ▸ below) found breaks
  | lostProbe i silent undecided inside seat dead before =>
    have calm := calm.resolve_right fun ⟨_, _, other⟩ => by cases other
    refine .lostProbe i (quiet silent calm) (cutoff ▸ undecided) inside (lost i seat) dead ?_
    intro j below
    obtain ⟨finding, done, receipt, member, message⟩ := before j below
    exact ⟨finding, done, receipt, List.mem_append_left _ member, message⟩
  | lostFetch i payload silent decided below found dead before =>
    have calm := calm.resolve_right fun ⟨_, _, other⟩ => by cases other
    exact .lostFetch i payload (quiet silent calm) (cutoff ▸ decided) (cutoff ▸ below) found dead
      before

structure Traced (sources : List (Source P)) (r : Run P) (log : List (Receipt P)) : Prop where
  answered : ∀ i answer, r.cutoff.answers[i]? = some (some answer) ->
    ∃ finding, probeAt sources i = .done finding ∧
      ∃ receipt ∈ log, receipt.message = .report i (.ok finding)
  unspoiled : r.phase.failure? = none -> r.phase ≠ .aborted ->
    ∀ receipt ∈ log, receipt.isError = false
  spoiled : isFetchPhase r.phase = true -> ∀ failure, r.phase.failure? = some failure ->
    ∃ repo message, failure = .fetch repo message
  caused : ∀ failure, r.phase.failure? = some failure -> Cause sources r log failure

namespace Traced

variable {sources : List (Source P)} {r next : Run P} {log more : List (Receipt P)}

theorem keep (traced : r.Traced sources log) (cutoff : next.cutoff = r.cutoff)
    (lost : ∀ i, seatAt r.seats i = .lost -> seatAt next.seats i = .lost)
    (failure : next.phase.failure? = r.phase.failure? ∨ next.phase = .aborted)
    (wanted : r.phase = .aborted -> next.phase = .aborted)
    (fetching : isFetchPhase next.phase = true ->
      isFetchPhase r.phase = true ∨ next.phase.failure? = none)
    (quiet : (∀ receipt ∈ more, receipt.isError = false) ∨
      ∃ repo message, r.phase.failure? = some (.fetch repo message)) :
    next.Traced sources (log ++ more) := by
  have given : next.phase = .aborted -> next.phase.failure? = none := by
    intro aborted
    rw [aborted]
    rfl
  refine ⟨?_, ?_, ?_, ?_⟩
  · intro i answer known
    rw [cutoff] at known
    obtain ⟨finding, done, receipt, member, message⟩ := traced.answered i answer known
    exact ⟨finding, done, receipt, List.mem_append_left _ member, message⟩
  · intro none stays receipt member
    have same := failure.resolve_right stays
    have quiet := quiet.resolve_right fun ⟨repo, message, fails⟩ => by simp [← same, none] at fails
    rcases List.mem_append.mp member with old | new
    · exact traced.unspoiled (same ▸ none) (fun aborted => stays (wanted aborted)) receipt old
    · exact quiet receipt new
  · intro which blamed fails
    rcases failure with same | aborted
    · rcases fetching which with before | none
      · exact traced.spoiled before blamed (same ▸ fails)
      · simp [none] at fails
    · simp [given aborted] at fails
  · intro blamed fails
    rcases failure with same | aborted
    · rw [same] at fails
      refine (traced.caused blamed fails).next cutoff lost (quiet.imp_right ?_)
      rintro ⟨repo, message, other⟩
      exact ⟨repo, message, Option.some.inj (fails.symm.trans other)⟩
    · simp [given aborted] at fails

theorem fall (traced : r.Traced sources log) {blamed : Failure} (cutoff : next.cutoff = r.cutoff)
    (failure : next.phase.failure? = some blamed)
    (fetching : isFetchPhase next.phase = true -> ∃ repo message, blamed = .fetch repo message)
    (cause : Cause sources next (log ++ more) blamed) : next.Traced sources (log ++ more) := by
  refine ⟨?_, ?_, ?_, ?_⟩
  · intro i answer known
    rw [cutoff] at known
    obtain ⟨finding, done, receipt, member, message⟩ := traced.answered i answer known
    exact ⟨finding, done, receipt, List.mem_append_left _ member, message⟩
  · intro none
    simp [none] at failure
  · intro which other fails
    obtain rfl : blamed = other := by simpa [failure] using fails
    exact fetching which
  · intro other fails
    obtain rfl : blamed = other := by simpa [failure] using fails
    exact cause

theorem record (traced : r.Traced sources log) (phase : r.phase = .deciding) {i : Nat}
    {finding : Finding P} (done : probeAt sources i = .done finding)
    (cutoff : next.cutoff = r.cutoff.record i finding.found)
    (failure : next.phase.failure? = none) :
    next.Traced sources
      (log ++ [{ cutoff := r.cutoff, message := .report i (.ok finding) }]) := by
  have clean := traced.unspoiled (by rw [phase]; rfl) (by simp [phase])
  refine ⟨?_, ?_, ?_, ?_⟩
  · intro j answer known
    by_cases same : i = j
    next =>
      subst same
      exact ⟨finding, done, _, List.mem_append_right _ List.mem_cons_self, rfl⟩
    next =>
      have old : r.cutoff.answers[j]? = some (some answer) := by
        simpa [cutoff, Cutoff.record, Cutoff.advance, same] using known
      obtain ⟨finding, done, receipt, member, message⟩ := traced.answered j answer old
      exact ⟨finding, done, receipt, List.mem_append_left _ member, message⟩
  · intro _ _ receipt member
    rcases List.mem_append.mp member with old | new
    · exact clean receipt old
    · rw [List.mem_singleton.mp new]
      rfl
  · intro _ blamed fails
    simp [failure] at fails
  · intro blamed fails
    simp [failure] at fails

end Traced

theorem find?_error {log : List (Receipt P)} (clean : ∀ receipt ∈ log, receipt.isError = false)
    {receipt : Receipt P} (error : receipt.isError = true) :
    (log ++ [receipt]).find? Receipt.isError = some receipt := by
  have none : log.find? Receipt.isError = none := List.find?_eq_none.mpr (by simpa using clean)
  simp [List.find?_append, none, error]

theorem Step.traced {sources : List (Source P)} {width : Nat} {r next : Run P} {m : Move}
    {events : List (Event P)} {log : List (Receipt P)} (step : Step sources r m events next)
    (took : (r.move sources m).1 = next) (lawful : r.Lawful sources width)
    (traced : r.Traced sources log) : next.Traced sources (log ++ r.receives m) := by
  have lost : ∀ i, seatAt r.seats i = .lost -> seatAt next.seats i = .lost :=
    fun i => (step.goes lawful.controlled i).lost
  have unsettled := lawful.decided.unsettled
  have settled := lawful.decided.settled
  cases step with
  | idle =>
    rw [receives_of_stay took, List.append_nil]
    exact traced
  | release | take | spawn | leave | call | reaped | loseProbe | report | missReport | bring
    | missResult =>
    rw [receives_other (by simp)]
    exact traced.keep rfl lost (.inl rfl) id .inl (.inl (by simp))
  | abandon | abandonFetches | abandonFailure =>
    rw [receives_other (by simp)]
    exact traced.keep rfl lost (.inr rfl) (fun _ => rfl) (fun fetching => by cases fetching)
      (.inl (by simp))
  | refuse i rest message phase mail seat =>
    rw [receives_report phase mail seat]
    have clean := traced.unspoiled (by rw [phase]; rfl) (by simp [phase])
    have truth := Seat.sound_at lawful.sound seat
    refine traced.fall rfl rfl (fun fetching => by cases fetching) ?_
    rw [lawful.nameOf]
    exact .probe i message r.cutoff (find?_error clean rfl) (Ending.breaks_of_report truth)
      (unsettled phase) (unsettled phase)
  | settle i rest finding phase mail seat _ =>
    rw [receives_report phase mail seat]
    have truth := Seat.sound_at lawful.sound seat
    exact traced.record phase (report_of_done truth) rfl rfl
  | record i rest finding phase mail seat _ =>
    rw [receives_report phase mail seat]
    have truth := Seat.sound_at lawful.sound seat
    refine traced.record phase (report_of_done truth) rfl ?_
    show r.phase.failure? = none
    rw [phase]
    rfl
  | strayReport i rest phase mail stray =>
    obtain ⟨report, seat⟩ := (mail ▸ lawful.controlled.mailed).reported
    exact absurd seat (stray report)
  | desert phase mail silent =>
    -- nobody is left to report: every repository before the first open one has answered
    rw [receives_deaf (.inr (.inl ⟨phase, mail⟩))]
    have clean := traced.unspoiled (by rw [phase]; rfl) (by simp [phase])
    obtain ⟨inside, seat, dead, before⟩ := lawful.deserted phase mail silent
    refine traced.fall rfl rfl (fun fetching => by cases fetching) ?_
    rw [lawful.nameOf, List.append_nil]
    refine .lostProbe _ clean (unsettled phase) inside seat dead fun j below => ?_
    obtain ⟨answer, known⟩ :=
      (Cutoff.isAnswered_iff _ j).mp (lawful.decided.walked.answered below)
    exact traced.answered j answer known
  | close failure phase =>
    rw [receives_deaf (.inl (by simp [phase, isFetchPhase]))]
    exact traced.keep rfl lost (.inl (by rw [phase]; rfl)) (by simp [phase])
      (fun fetching => by cases fetching) (.inl (by simp))
  | letGo failure phase gone =>
    rw [receives_deaf (.inl (by simp [phase, isFetchPhase]))]
    exact traced.keep rfl lost (.inl (by rw [phase]; rfl)) (by simp [phase])
      (fun fetching => by cases fetching) (.inl (by simp))
  | dispatch phase gone =>
    rw [receives_deaf (.inl (by simp [phase, isFetchPhase]))]
    exact traced.keep rfl lost (.inl (by rw [phase]; rfl)) (by simp [phase]) (fun _ => .inr rfl)
      (.inl (by simp))
  | reap m i rest mail calm =>
    have deaf : r.receives m = [] := by
      rcases calm with ⟨rfl, failure, phase⟩ | ⟨rfl, reaping⟩
      · exact receives_deaf (.inl (by simp [phase, isFetchPhase]))
      · exact receives_other (by simp)
    rw [deaf]
    exact traced.keep rfl lost (.inl rfl) id .inl (.inl (by simp))
  | drained failure phase mail silent =>
    rw [receives_deaf (.inl (by simp [phase, isFetchPhase]))]
    exact traced.keep rfl lost (.inl (by rw [phase]; rfl)) (by simp [phase])
      (fun fetching => by cases fetching) (.inl (by simp))
  | collect dispatched harvests failure i rest harvest phase mail seat =>
    rw [receives_result phase mail seat]
    refine traced.keep rfl lost (.inl (by rw [phase]; rfl)) (by simp [phase])
      (fun _ => .inl (by rw [phase]; rfl)) (.inl fun receipt member => ?_)
    rw [List.mem_singleton.mp member]
    rfl
  | spoil dispatched harvests failure i rest message phase mail seat =>
    rw [receives_result phase mail seat]
    rcases failure with _ | failure
    · have clean := traced.unspoiled (by rw [phase]; rfl) (by simp [phase])
      obtain ⟨payload, done, ends⟩ := Seat.sound_at lawful.sound seat
      have one := (lawful.gathered _ _ _ phase).awaited i
        (by rw [show seatAt r.seats i = _ from seat]; rfl)
      refine traced.fall rfl rfl (fun _ => ⟨_, _, rfl⟩) ?_
      rw [lawful.nameOf]
      exact .fetch i payload message r.cutoff (find?_error clean rfl)
        (settled (.inr (.inr (by rw [phase]; rfl)))) (lawful.below phase one) done
        (Ending.breaks_of_report ends)
    -- the first error stands, and this one is not told
    · obtain ⟨repo, text, rfl⟩ := traced.spoiled (by rw [phase]; rfl) failure (by rw [phase]; rfl)
      exact traced.keep rfl lost (.inl (by rw [phase]; rfl)) (by simp [phase])
        (fun _ => .inl (by rw [phase]; rfl)) (.inr ⟨repo, text, by rw [phase]; rfl⟩)
  | strayResult dispatched harvests failure i rest phase mail stray =>
    obtain ⟨result, seat⟩ := (mail ▸ lawful.controlled.mailed).fetched
    exact absurd seat (stray result)
  | fail dispatched harvests failure blamed phase mail quiet blame =>
    rw [receives_deaf (.inr (.inr ⟨by rw [phase]; rfl, mail⟩))]
    -- without an error it is a harvest that is missing
    rcases failure with _ | failure
    · have clean := traced.unspoiled (by rw [phase]; rfl) (by simp [phase])
      obtain ⟨i, below, ⟨payload, done, dead⟩, rfl, before⟩ :=
        lawful.missing phase mail quiet blame
      refine traced.fall rfl rfl (fun fetching => by cases fetching) ?_
      rw [List.append_nil]
      exact .lostFetch i payload clean (settled (.inr (.inr (by rw [phase]; rfl)))) below done dead before
    · obtain rfl : failure = blamed := by simpa using blame
      exact traced.keep rfl lost (.inl (by rw [phase]; rfl)) (by simp [phase])
        (fun fetching => by cases fetching) (.inl (by simp))
  | page dispatched harvests phase mail quiet complete =>
    rw [receives_deaf (.inr (.inr ⟨by rw [phase]; rfl, mail⟩))]
    exact traced.keep rfl lost (.inl (by rw [phase]; rfl)) (by simp [phase])
      (fun fetching => by cases fetching) (.inl (by simp))
  | giveIn failure phase calm =>
    rw [receives_deaf (.inl (by simp [phase, isFetchPhase]))]
    exact traced.keep rfl lost (.inl (by rw [phase]; rfl)) (by simp [phase])
      (fun fetching => by cases fetching) (.inl (by simp))

theorem play_traced {sources : List (Source P)} {width : Nat} {r : Run P} {log : List (Receipt P)}
    (lawful : r.Lawful sources width) (traced : r.Traced sources log) (moves : List Move) :
    (r.play sources moves).1.Traced sources (log ++ r.receipts sources moves) := by
  induction moves generalizing r log with
  | nil => simpa [play, receipts] using traced
  | cons m rest ih =>
    have step := move_step sources r m
    have later := ih (step.lawful lawful) (step.traced rfl lawful traced)
    rwa [List.append_assoc] at later

theorem start_traced (sources : List (Source P)) (repos : List String) (request : Request)
    (maxProbes nextLimit : Nat) :
    (start repos request maxProbes nextLimit : Run P).Traced sources [] := by
  have early : (start repos request maxProbes nextLimit : Run P).phase.failure? = none ∧
      ∃ count, (start repos request maxProbes nextLimit : Run P).cutoff =
        Cutoff.start count request.limit := by
    simp only [start]
    split <;> exact ⟨rfl, _, rfl⟩
  obtain ⟨unfailed, count, fresh⟩ := early
  refine ⟨?_, fun _ _ => by simp, fun _ failure fails => ?_, fun failure fails => ?_⟩
  · intro i answer known
    rw [fresh] at known
    by_cases inside : i < count <;> simp [Cutoff.start, inside] at known
  · simp [unfailed] at fails
  · simp [unfailed] at fails

end Run

namespace Runs

theorem traced (sources : Nat -> List (Source P)) (maxProbes nextLimit : Nat) (turns : List Turn)
    (k : Nat) (r : Run P)
    (there : ((idle maxProbes nextLimit).play sources turns).1.runs[k]? = some r) :
    r.Traced ((sources k).drop r.offset)
      ((idle maxProbes nextLimit).receipts sources k turns) := by
  obtain ⟨request, moves, lawful, same, log⟩ :=
    receipts_begun sources maxProbes nextLimit turns k r there
  rw [log]
  have fresh := Run.start_traced (P := P) ((sources k).drop r.offset) ((sources k).map Source.name)
    request (max maxProbes 1) nextLimit
  have own := Run.play_traced lawful fresh moves
  rwa [← same, List.nil_append] at own

theorem settled_of_fetch (sources : Nat -> List (Source P)) (maxProbes nextLimit : Nat)
    (turns : List Turn) (k : Nat) (r : Run P)
    (there : ((idle maxProbes nextLimit).play sources turns).1.runs[k]? = some r) {g : Nat}
    {payload : P} (fetches :
      .fetch g payload ∈ eventsOf k ((idle maxProbes nextLimit).play sources turns).2) :
    r.cutoff.settled = true := by
  obtain ⟨request, moves, _, rfl, told⟩ := play_begun sources _ turns k r (Nat.zero_le _) there
  rw [told] at fetches
  obtain ⟨event, member, shifted⟩ := List.mem_map.mp fetches
  have lawful := Run.start_lawful (sources k) request (max maxProbes 1) nextLimit
  have offset := (Run.start_given (P := P) ((sources k).map Source.name) request (max maxProbes 1)
    nextLimit).2.1
  rw [List.length_map] at offset
  rw [← offset] at lawful
  cases event with
  | fetch i payload => exact Run.play_fetches lawful moves member
  | probe | release => cases shifted

/-- A run that fails names a repository of its range which is to blame: the one whose error was
received first, or, if there was none, the first one whose worker died. A run whose page is
undecided fetches nothing; and once the page is decided, only a fetch below the cutoff can still
make the run fail. -/
theorem failure_has_cause (sources : Nat -> List (Source P)) (maxProbes nextLimit : Nat)
    (turns : List Turn) (k : Nat) (r : Run P)
    (there : ((idle maxProbes nextLimit).play sources turns).1.runs[k]? = some r)
    (failure : Failure) (failed : r.outcome? = some (.error failure)) :
    let range := (sources k).drop r.offset
    (∃ i < range.length, failure.repo = nameAt range i) ∧
      r.Cause range ((idle maxProbes nextLimit).receipts sources k turns) failure ∧
      (r.cutoff.settled = false -> ∀ g payload,
        .fetch g payload ∉ eventsOf k ((idle maxProbes nextLimit).play sources turns).2) ∧
      ∀ before after earlier, turns = before ++ after ->
        ((idle maxProbes nextLimit).play sources before).1.runs[k]? = some earlier ->
        earlier.cutoff.settled = true ->
        r.cutoff = earlier.cutoff ∧ FetchFails range earlier.cutoff.firstOpen := by
  intro range
  have phase := Run.phase_of_outcome failed
  obtain ⟨_, reached⟩ := Runs.reached sources maxProbes nextLimit turns k r there
  have cause : r.Cause range _ failure :=
    (traced sources maxProbes nextLimit turns k r there).caused failure (by rw [phase]; rfl)
  refine ⟨cause.inside, cause, fun undecided g payload fetches => ?_, ?_⟩
  · have settled := settled_of_fetch sources maxProbes nextLimit turns k r there fetches
    simp [undecided] at settled
  · intro before after earlier parts stood decided
    subst parts
    obtain ⟨_, lawful⟩ := Runs.reached sources maxProbes nextLimit before k earlier stood
    rw [play_later sources _ before after k earlier stood] at there
    have same := Run.play_cutoff lawful.lawful decided (movesOf k after)
    rw [Option.some.inj there] at same
    have foiled := reached.lawful.foiled
    rw [phase] at foiled
    have undecided : r.cutoff.settled ≠ false := by simp [same, decided]
    exact ⟨same, same ▸ foiled.resolve_left undecided⟩

-- The failure of the third probe is the first thing that is heard.
def earlyFailure : List Turn :=
  .begin { query := "q", limit := 1 } ::
    List.map (Turn.move 0) (Move.opening 3 ++ [.endProbe 2, .advance, .advance, .launch,
      .endProbe 1, .advance, .advance, .endProbe 0, .advance, .advance])

theorem earlyFailure_blames :
    ∃ r failure, ((idle 3 9).play (fun _ => oneOfThree) earlyFailure).1.runs[0]? = some r ∧
      r.outcome? = some (.error failure) ∧ failure = .probe "c" "invalid query: unclosed group" ∧
      ∀ g payload,
        .fetch g payload ∉ eventsOf 0 ((idle 3 9).play (fun _ => oneOfThree) earlyFailure).2 := by
  have stands : (((idle 3 9).play (fun _ => oneOfThree) earlyFailure).1.runs[0]?.any fun r =>
      r.outcome?.any fun outcome => match outcome with
        | .error failure => failure == .probe "c" "invalid query: unclosed group" && !r.cutoff.settled
        | .ok _ => false) = true := by
    decide +kernel
  obtain ⟨r, there, stands⟩ := (Option.any_eq_true _ _).mp stands
  obtain ⟨outcome, ended, blames⟩ := (Option.any_eq_true _ _).mp stands
  cases outcome with
  | ok page => cases blames
  | error failure =>
    simp only [Bool.and_eq_true, beq_iff_eq, Bool.not_eq_true'] at blames
    have caused := failure_has_cause (fun _ => oneOfThree) 3 9 earlyFailure 0 r there failure ended
    exact ⟨r, failure, there, ended, blames.1, caused.2.2.1 blames.2⟩

end Runs

end FleetSearch.Search
