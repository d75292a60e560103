import FleetSearch.Proofs.Search.Progress
import Mathlib.Data.List.Chain

set_option autoImplicit false

namespace FleetSearch.Search

variable {P : Type}

namespace Source

theorem found_of_result {source : Source P} {result : RepoResult}
    (brings : source.result? = some result) : source.found = true ∧ result.repo = source.name := by
  obtain ⟨harvest, there, rfl⟩ := Option.map_eq_some_iff.mp brings
  refine ⟨?_, rfl⟩
  unfold harvest? at there
  unfold found
  split at there <;> simp_all

theorem result_of_found {source : Source P} (succeeds : source.succeeds = true)
    (found : source.found = true) : ∃ result, source.result? = some result := by
  rw [← Option.isSome_iff_exists, result?, Option.isSome_map]
  unfold Source.succeeds at succeeds
  unfold Source.found at found
  split at found <;> simp_all

end Source

theorem names_of_results {sources : List (Source P)}
    (succeed : ∀ source ∈ sources, source.succeeds = true) :
    (sources.filterMap Source.result?).map RepoResult.repo =
      (sources.filter Source.found).map Source.name := by
  induction sources with
  | nil => rfl
  | cons source rest ih =>
    have later := ih fun other member => succeed other (List.mem_cons_of_mem _ member)
    cases brings : source.result? with
    | some result =>
      obtain ⟨found, name⟩ := Source.found_of_result brings
      simp [brings, found, name, later]
    | none =>
      have unfound : source.found = false := by
        by_contra found
        obtain ⟨result, there⟩ := Source.result_of_found (succeed source List.mem_cons_self)
          (by simpa using found)
        simp [brings] at there
      simp [brings, unfound, later]

theorem length_of_results {sources : List (Source P)}
    (succeed : ∀ source ∈ sources, source.succeeds = true) :
    (sources.filterMap Source.result?).length = (sources.map Source.found).count true := by
  have names := congrArg List.length (names_of_results succeed)
  rw [List.length_map, List.length_map, ← List.countP_eq_length_filter] at names
  rw [names, List.count, List.countP_map]
  congr 1
  funext source
  simp

namespace Runs

def Ran (sources : List (Source P)) (r : Run P) : Prop :=
  ∃ (all : Nat -> List (Source P)) (maxProbes nextLimit : Nat) (turns : List Turn) (k : Nat),
    all k = sources ∧ ((idle maxProbes nextLimit).play all turns).1.runs[k]? = some r

/-- Pages one after the other, each noted with its limit and asked for from the place where the one
before it ended. -/
inductive Paging (sources : List (Source P)) : (offset : Nat) -> List (Nat × Page) -> Prop
  | stop (offset : Nat) : Paging sources offset []
  | next (r : Run P) (page : Page) (more : List (Nat × Page)) (ran : Ran sources r)
      (ended : r.outcome? = some (.ok page)) (later : Paging sources page.nextOffset more) :
    Paging sources r.request.offset ((r.request.limit, page) :: more)

section

variable {sources : List (Source P)} {r : Run P}

theorem Ran.lawful (ran : Ran sources r) :
    r.offset = min r.request.offset sources.length ∧
      ∃ width, r.Lawful (sources.drop r.offset) width ∧ (0 < r.names.length -> 0 < width) := by
  obtain ⟨all, maxProbes, nextLimit, turns, k, rfl, there⟩ := ran
  obtain ⟨_, reached⟩ := Runs.reached all maxProbes nextLimit turns k r there
  exact ⟨reached.offset, _, reached.lawful, reached.room⟩

theorem Ran.page (ran : Ran sources r) {page : Page} (ended : r.outcome? = some (.ok page))
    (inside : r.request.offset ≤ sources.length) :
    let cut := cutAfter r.request.limit ((sources.drop r.request.offset).map Source.found)
    page.results = ((sources.drop r.request.offset).take cut).filterMap Source.result? ∧
      page.nextOffset = r.request.offset + cut ∧
      page.otherRepos = sources.length - (r.request.offset + cut) ∧
      r.request.offset + cut ≤ sources.length := by
  intro cut
  obtain ⟨offset, width, lawful, _⟩ := ran.lawful
  rw [Nat.min_eq_left inside] at offset
  have paged := (lawful.paged page (Run.phase_of_outcome ended)).page
  have short := cutAfter_le r.request.limit ((sources.drop r.request.offset).map Source.found)
  rw [List.length_map, List.length_drop] at short
  rw [offset] at paged
  rw [paged]
  refine ⟨rfl, rfl, ?_, ?_⟩
  · simp only [scanPage, List.length_drop, cut]
    omega
  · simp only [cut]
    omega

theorem Ran.full (ran : Ran sources r) {page : Page} (ended : r.outcome? = some (.ok page))
    (inside : r.request.offset ≤ sources.length)
    (succeed : ∀ source ∈ sources, source.succeeds = true) (more : 0 < page.otherRepos) :
    page.results.length = r.request.limit := by
  obtain ⟨results, _, others, _⟩ := ran.page ended inside
  rw [results, length_of_results, List.map_take]
  · refine count_take_of_cutAfter_lt ?_
    rw [List.length_map, List.length_drop]
    omega
  · intro source member
    exact succeed source (List.mem_of_mem_drop (List.mem_of_mem_take member))

theorem Ran.further (ran : Ran sources r) {page : Page} (ended : r.outcome? = some (.ok page))
    (inside : r.request.offset < sources.length) (asked : 0 < r.request.limit) :
    r.request.offset < page.nextOffset := by
  obtain ⟨_, place, _, _⟩ := ran.page ended (Nat.le_of_lt inside)
  have some : 0 < cutAfter r.request.limit ((sources.drop r.request.offset).map Source.found) :=
    cutAfter_pos asked (by simpa using inside)
  omega

namespace Paging

variable {offset : Nat} {pages : List (Nat × Page)}

def reaches (offset : Nat) (pages : List (Nat × Page)) : Nat :=
  pages.getLast?.elim offset fun entry => entry.2.nextOffset

theorem reaches_cons (offset : Nat) (entry : Nat × Page) (more : List (Nat × Page)) :
    reaches offset (entry :: more) = reaches entry.2.nextOffset more := by
  rw [reaches, reaches, List.getLast?_cons]
  cases more.getLast? <;> rfl

theorem places (paging : Paging sources offset pages) (inside : offset ≤ sources.length)
    (entry : Nat × Page) (member : entry ∈ pages) :
    entry.2.nextOffset + entry.2.otherRepos = sources.length := by
  induction paging with
  | stop => cases member
  | next r page more ran ended later ih =>
    obtain ⟨_, place, others, short⟩ := ran.page ended inside
    rcases List.mem_cons.mp member with rfl | member
    · show page.nextOffset + page.otherRepos = _
      omega
    · exact ih (place ▸ short) member

theorem full (paging : Paging sources offset pages) (inside : offset ≤ sources.length)
    (succeed : ∀ source ∈ sources, source.succeeds = true) (entry : Nat × Page)
    (member : entry ∈ pages) (more : 0 < entry.2.otherRepos) :
    entry.2.results.length = entry.1 := by
  induction paging with
  | stop => cases member
  | next r page rest ran ended later ih =>
    obtain ⟨_, place, _, short⟩ := ran.page ended inside
    rcases List.mem_cons.mp member with rfl | member
    · exact ran.full ended inside succeed more
    · exact ih (place ▸ short) member

theorem rises (paging : Paging sources offset pages) (inside : offset ≤ sources.length)
    (asked : ∀ entry ∈ pages, 1 ≤ entry.1) :
    (offset :: pages.map fun entry => entry.2.nextOffset).IsChain fun a b =>
      a ≤ b ∧ (a < sources.length -> a < b) := by
  induction paging with
  | stop offset => simp
  | next r page rest ran ended later ih =>
    obtain ⟨_, place, _, short⟩ := ran.page ended inside
    rw [List.map_cons, List.isChain_cons_cons]
    have onward : r.request.offset ≤ page.nextOffset := by omega
    have further := fun within => ran.further ended within (asked _ List.mem_cons_self)
    refine ⟨⟨onward, further⟩, ih (place ▸ short) fun entry member => ?_⟩
    exact asked entry (List.mem_cons_of_mem _ member)

theorem shown (paging : Paging sources offset pages) (inside : offset ≤ sources.length) :
    (pages.flatMap fun entry => entry.2.results) ++
        (sources.drop (reaches offset pages)).filterMap Source.result? =
      (sources.drop offset).filterMap Source.result? := by
  induction paging with
  | stop offset => rfl
  | next r page rest ran ended later ih =>
    obtain ⟨results, place, _, short⟩ := ran.page ended inside
    have onward := ih (place ▸ short)
    rw [reaches_cons, List.flatMap_cons, List.append_assoc, onward, results, place,
      ← List.filterMap_append, ← List.drop_drop, List.take_append_drop]

end Paging

theorem Ran.comes (succeed : ∀ source ∈ sources, source.succeeds = true) (request : Request) :
    ∃ (r : Run P) (page : Page), Ran sources r ∧ r.request = request ∧
      r.outcome? = some (.ok page) := by
  let start : Run P := Run.start (sources.map Source.name) request 1 0
  have lawful := Run.start_lawful sources request 1 0
  obtain ⟨own, offset, _⟩ := Run.start_given (P := P) (sources.map Source.name) request 1 0
  rw [List.length_map] at offset
  have wanted : start.phase ≠ .aborted := by
    simp only [start, Run.start]
    split <;> exact fun gone => by cases gone
  obtain ⟨moves, outcome, _, ended⟩ := lawful.finishes (by omega) wanted
  rw [← offset] at lawful ended
  have begun : ((idle 1 0).turn (fun _ => sources) (.begin request)).1.runs[0]? = some start := rfl
  obtain ⟨runs, _⟩ := play_moves (fun _ => sources) _ 0 start begun moves
  let r : Run P := (start.play (sources.drop start.offset) moves).1
  have ran : Ran sources r := by
    refine ⟨fun _ => sources, 1, 0, .begin request :: moves.map (Turn.move 0), 0, rfl, ?_⟩
    rw [play, runs]
    rfl
  have still := Run.play_lawful start lawful moves
  have unfailing := still.unfailing fun source member => succeed source (List.mem_of_mem_drop member)
  cases outcome with
  | error failure => exact absurd ended (unfailing failure)
  | ok page => exact ⟨r, page, ran, (Run.play_given _ start moves).1.trans own, ended⟩

theorem Paging.comes (succeed : ∀ source ∈ sources, source.succeeds = true) (offset : Nat)
    (limits : List Nat) :
    ∃ pages, Paging sources offset pages ∧ pages.map Prod.fst = limits := by
  induction limits generalizing offset with
  | nil => exact ⟨[], .stop offset, rfl⟩
  | cons limit rest ih =>
    obtain ⟨r, page, ran, own, ended⟩ := Ran.comes succeed { query := "", offset, limit }
    obtain ⟨more, later, asked⟩ := ih page.nextOffset
    have first := Paging.next r page more ran ended later
    rw [own] at first
    exact ⟨_, first, by rw [List.map_cons, asked]⟩

end

/-- Whoever asks for page after page, whatever the limits and the schedules, is shown every match
once and in order. -/
theorem pages_enumerate (sources : List (Source P))
    (succeed : ∀ source ∈ sources, source.succeeds = true) :
    (∀ r, Ran sources r -> (∀ failure, r.outcome? ≠ some (.error failure)) ∧
        (r.Rests -> r.phase = .aborted ∨ ∃ page, r.outcome? = some (.ok page))) ∧
      (∀ limits, ∃ pages, Paging sources 0 pages ∧ pages.map Prod.fst = limits) ∧
      ∀ pages, Paging sources 0 pages -> (∀ entry ∈ pages, 1 ≤ entry.1) ->
        (∀ entry ∈ pages, entry.2.nextOffset + entry.2.otherRepos = sources.length ∧
          (0 < entry.2.otherRepos -> entry.2.results.length = entry.1)) ∧
        ((0 :: pages.map fun entry => entry.2.nextOffset).IsChain fun a b =>
          a ≤ b ∧ (a < sources.length -> a < b)) ∧
        ∀ last, pages.getLast? = some last -> last.2.otherRepos = 0 ->
          (pages.flatMap fun entry => entry.2.results) = sources.filterMap Source.result? ∧
            ((pages.flatMap fun entry => entry.2.results).map RepoResult.repo =
              (sources.filter Source.found).map Source.name) := by
  refine ⟨fun r ran => ?_, fun limits => ?_, fun pages paging asked => ?_⟩
  · obtain ⟨_, width, lawful, room⟩ := ran.lawful
    have unfailing := lawful.unfailing fun source member => succeed source (List.mem_of_mem_drop member)
    refine ⟨unfailing, fun rests => ?_⟩
    rcases rests.outcome lawful room with aborted | ⟨outcome, ended⟩
    · exact .inl aborted
    · cases outcome with
      | error failure => exact absurd ended (unfailing failure)
      | ok page => exact .inr ⟨page, ended⟩
  · exact Paging.comes succeed 0 limits
  · have inside := Nat.zero_le sources.length
    refine ⟨fun entry member => ⟨paging.places inside entry member,
      paging.full inside succeed entry member⟩, paging.rises inside asked, fun last final spent => ?_⟩
    have place := paging.places inside last (List.mem_of_getLast? final)
    have shown := paging.shown inside
    have reached : Paging.reaches 0 pages = sources.length := by
      rw [Paging.reaches, final, Option.elim_some]
      omega
    rw [reached, List.drop_length, List.filterMap_nil, List.append_nil, List.drop_zero] at shown
    rw [shown]
    exact ⟨rfl, names_of_results succeed⟩

-- A repository without a match between two that have one.
def missBetween : List (Source Nat) :=
  [{ name := "a", probe := .done { found := true, payload := 1 }, fetch := fun _ => .done {} },
    { name := "b", probe := .done { found := false, payload := 2 }, fetch := fun _ => .lost },
    { name := "c", probe := .done { found := true, payload := 3 }, fetch := fun _ => .done {} }]

theorem missBetween_shown :
    ∃ pages, Paging missBetween 0 pages ∧ pages.map Prod.fst = [1, 2, 1] ∧
      (pages.flatMap fun entry => entry.2.results).map RepoResult.repo = ["a", "c"] := by
  have succeed : ∀ source ∈ missBetween, source.succeeds = true := by decide
  obtain ⟨_, comes, enumerate⟩ := pages_enumerate missBetween succeed
  obtain ⟨pages, paging, limits⟩ := comes [1, 2, 1]
  have asked : ∀ entry ∈ pages, 1 ≤ entry.1 := fun entry member => by
    have one : entry.1 ∈ [1, 2, 1] := limits ▸ List.mem_map_of_mem member
    have all : ∀ limit ∈ [1, 2, 1], 1 ≤ limit := by decide
    exact all _ one
  obtain ⟨places, rises, shown⟩ := enumerate pages paging asked
  -- three pages that each go further have come to the end of three repositories
  obtain ⟨first, second, third, rfl⟩ : ∃ a b c, pages = [a, b, c] := by
    rw [← List.length_eq_three, ← List.length_map Prod.fst, limits]
    rfl
  have three : missBetween.length = 3 := rfl
  have place := (places third (by simp)).1
  simp only [List.map_cons, List.map_nil, List.isChain_cons_cons, three] at rises
  have spent : third.2.otherRepos = 0 := by omega
  exact ⟨_, paging, limits, (shown third rfl spent).2⟩

end Runs

end FleetSearch.Search
