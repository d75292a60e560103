import FleetSearch.Proofs.Search.Turns

set_option autoImplicit false

namespace FleetSearch.Search

variable {P : Type}

theorem Run.Rests.outcome {sources : List (Source P)} {width : Nat} {r : Run P} (rests : r.Rests)
    (lawful : r.Lawful sources width) (room : 0 < r.names.length -> 0 < width) :
    r.phase = .aborted ∨ ∃ outcome, r.outcome? = some outcome := by
  rcases (rests.finished lawful room).2.2 with ⟨outcome, phase⟩ | phase
  · exact .inr ⟨outcome, by rw [Run.outcome?, phase]⟩
  · exact .inl phase

theorem Run.phase_of_outcome {r : Run P} {outcome : Except Failure Page}
    (ended : r.outcome? = some outcome) : r.phase = .done outcome := by
  unfold Run.outcome? at ended
  split at ended
  next same phase =>
    cases ended
    exact phase
  next => cases ended

theorem Run.Lawful.unfailing {sources : List (Source P)} {width : Nat} {r : Run P}
    (lawful : r.Lawful sources width) (succeed : ∀ source ∈ sources, source.succeeds = true)
    (failure : Failure) : r.outcome? ≠ some (.error failure) := by
  intro failed
  have phase := Run.phase_of_outcome failed
  obtain ⟨source, member, fails⟩ := (lawful.blamed failure (by rw [phase]; rfl)).fails
  simp [succeed source member] at fails

namespace Runs

theorem Reached.room {sources : List (Source P)} {maxProbes nextLimit : Nat}
    {events : List (Event P)} {r : Run P}
    (reached : Reached sources (max maxProbes 1) nextLimit events r) :
    0 < r.names.length -> 0 < min (sources.drop r.offset).length (max maxProbes 1) := by
  intro wanted
  rw [reached.lawful.length] at wanted
  omega

/-- The page of run `k` is that of a scan over its range up to the cut, right after the match that
fills the page; it comes unless a call fails or the run is given up. -/
theorem page_eq_scan (sources : Nat -> List (Source P)) (maxProbes nextLimit : Nat)
    (turns : List Turn) (k : Nat) (r : Run P)
    (there : ((idle maxProbes nextLimit).play sources turns).1.runs[k]? = some r) :
    let offset := min r.request.offset (sources k).length
    let range := (sources k).drop offset
    let cut := cutAfter r.request.limit (range.map Source.found)
    (turns.filterMap Turn.request?)[k]? = some r.request ∧
      (∀ page, r.outcome? = some (.ok page) ->
        (∀ source ∈ range.take cut, source.succeeds = true) ∧
          page.results = (range.take cut).filterMap Source.result? ∧
          page.filesOpened =
            (((range.take cut).filterMap Source.harvest?).map Harvest.filesOpened).sum ∧
          page.nextOffset = offset + cut ∧ page.otherRepos = range.length - cut ∧
          page.nextLimit = nextLimit) ∧
      ((∀ source ∈ range, source.succeeds = true) ->
        (∀ failure, r.outcome? ≠ some (.error failure)) ∧
          (r.Rests -> r.phase = .aborted ∨ ∃ page, r.outcome? = some (.ok page))) := by
  intro offset range cut
  obtain ⟨asked, reached⟩ := Runs.reached sources maxProbes nextLimit turns k r there
  have lawful := reached.lawful
  have place : r.offset = offset := reached.offset
  have same : (sources k).drop r.offset = range := by rw [place]
  refine ⟨asked, fun page ended => ?_, fun succeed => ?_⟩
  · have paged := lawful.paged page (Run.phase_of_outcome ended)
    rw [same] at paged
    have scan := paged.page
    rw [place, reached.nextLimit] at scan
    rw [scan]
    exact ⟨paged.succeeds, rfl, rfl, rfl, rfl, rfl⟩
  · rw [← same] at succeed
    refine ⟨lawful.unfailing succeed, fun rests => ?_⟩
    rcases rests.outcome lawful reached.room with aborted | ⟨outcome, ended⟩
    · exact .inl aborted
    · cases outcome with
      | error failure => exact absurd ended (lawful.unfailing succeed failure)
      | ok page => exact .inr ⟨page, ended⟩

-- A match between a repository without one and one whose probe fails.
def oneOfThree : List (Source Nat) :=
  [{ name := "a", probe := .done { found := false, payload := 0 }, fetch := fun _ => .lost },
    { name := "b"
      probe := .done { found := true, payload := 4 }
      fetch := fun opened => .done { filesWithMatch := 1, filesOpened := opened } },
    { name := "c"
      probe := .failed ["invalid query", "unclosed group"]
      fetch := fun _ => .lost }]

-- The match ends first, and the failure comes too late to count.
def lateFailure : List Turn :=
  .begin { query := "q", limit := 1 } ::
    List.map (Turn.move 0) (Move.opening 3 ++ [.endProbe 1, .advance, .endProbe 0, .advance,
      .advance, .launch, .advance, .endProbe 2, .endFetch 1, .advance, .reap, .advance])

theorem lateFailure_page :
    ∃ r page, ((idle 3 9).play (fun _ => oneOfThree) lateFailure).1.runs[0]? = some r ∧
      r.outcome? = some (.ok page) ∧ page.results.map RepoResult.repo = ["b"] ∧
      page.filesOpened = 4 ∧ page.nextOffset = 2 ∧ page.otherRepos = 1 := by
  have done : (((idle 3 9).play (fun _ => oneOfThree) lateFailure).1.runs[0]?.any fun r =>
      r.outcome?.any Except.isOk) = true := by
    decide +kernel
  obtain ⟨r, there, done⟩ := (Option.any_eq_true _ _).mp done
  obtain ⟨outcome, ended, ok⟩ := (Option.any_eq_true _ _).mp done
  obtain ⟨page, rfl⟩ : ∃ page, outcome = .ok page := by
    cases outcome with
    | error failure => cases ok
    | ok page => exact ⟨page, rfl⟩
  obtain ⟨asked, scan, _⟩ := page_eq_scan (fun _ => oneOfThree) 3 9 lateFailure 0 r there
  have own : r.request = { query := "q", limit := 1 } := by
    simpa [lateFailure, Turn.request?] using asked.symm
  rw [own] at scan
  obtain ⟨_, results, opened, place, others, _⟩ := scan page ended
  refine ⟨r, page, there, ended, ?_, ?_, ?_, ?_⟩
  · rw [results]
    decide
  · rw [opened]
    decide
  · rw [place]
    decide
  · rw [others]
    decide

end Runs

end FleetSearch.Search
