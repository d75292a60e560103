import FleetSearch.Proofs.Checkout.Windows
import FleetSearch.Proofs.Search.Page

set_option autoImplicit false

namespace FleetSearch.Checkout

open FleetSearch.Disk FleetSearch.Search FleetSearch.Text

/-- From the first hit on, some file has a matching line with so many lines before it that the end
of its context is past what a word counts. -/
def Overflows (v : Volume) (c : Candidates) (context : Nat) : Prop :=
  ∃ f ∈ c.files.drop c.firstHit, ∃ text i line, v.readText f.path = .ok text ∧
    (lines text.toList)[i]? = some line ∧ c.pattern.occursIn line = true ∧
    Count.bound ≤ i + 1 + context

theorem not_overflows_iff {v : Volume} {c : Candidates} {context : Nat} :
    ¬ Overflows v c context ↔
      ∀ f ∈ c.files.drop c.firstHit, FileFits v c.pattern context f := by
  constructor
  · intro none f member text read i line there occurs
    by_contra long
    exact none ⟨f, member, text, i, line, read, there, occurs, by omega⟩
  · rintro fits ⟨f, member, text, i, line, read, there, occurs, long⟩
    have room := fits f member text read i line there occurs
    omega

theorem not_overflows_of_few {v : Volume} {c : Candidates} {context : Nat}
    (few : ∀ f ∈ c.files.drop c.firstHit, ∀ text, v.readText f.path = .ok text ->
      (lines text.toList).length + context < Count.bound) : ¬ Overflows v c context := by
  refine not_overflows_iff.mpr fun f member text read => ?_
  have room := few f member text read
  exact fits_of_few c.pattern (by omega)

theorem not_overflows_of_walked {v : Volume} {dir query : String} {dots : Bool}
    {entries : List (String × Node)} (found : v.find dir = .ok (.dir entries))
    (tidy : (Node.dir entries).IsTidy) {asked : Options} {finding : Finding Candidates}
    (probed : probe v dir dots query asked = .ok finding) {context : Nat}
    (room : context + largestFile < Count.bound) : ¬ Overflows v finding.payload context := by
  refine not_overflows_iff.mpr fun f member => ?_
  have walked := candidate_of_probe probed (List.mem_of_mem_drop member)
  exact walked_fits dots found tidy finding.payload.pattern room f walked

theorem fetch_overflows_iff (v : Volume) (revision : String) (c : Candidates) (o : Options) :
    fetch v revision c o = .error .contextTooLong ↔ Overflows v c o.context := by
  have spec := fetch_spec v revision c o
  cases went : fetch v revision c o with
  | error fault =>
    rw [went, ← not_overflows_iff, not_not] at spec
    cases fault
    simp [spec]
  | ok harvest =>
    rw [went] at spec
    have none := not_overflows_iff.mpr spec.1
    simp [none]

-- A repository of a search: a checkout as the probe finds it and as the fetch finds it.
structure Target where
  name : String
  dir : String
  dots : Bool
  revision : String
  -- the number of the task that fetches
  task : Nat
  probed : Volume
  fetched : Volume

def Target.probe (t : Target) (request : Request) : Except ProbeFault (Finding Candidates) :=
  Checkout.probe t.probed t.dir t.dots request.query request.options

def Target.source (t : Target) (request : Request) : Source Candidates where
  name := t.name
  probe :=
    match t.probe request with
    | .ok finding => .done finding
    | .error fault => .failed fault.causes
  fetch payload :=
    match fetch t.fetched t.revision payload request.options with
    | .ok harvest => .done harvest
    | .error fault => .failed ["Fetch task failed", fault.message t.task]

theorem Target.probe_of_source {t : Target} {request : Request} {finding : Finding Candidates}
    (done : (t.source request).probe = .done finding) : t.probe request = .ok finding := by
  simp only [Target.source] at done
  split at done
  next probed =>
    cases done
    exact probed
  next => cases done

theorem Target.overflows_of_source {t : Target} {request : Request} {payload : Candidates}
    {message : String}
    (ends : ((t.source request).fetch payload).report? .fetch = some (.error message)) :
    Overflows t.fetched payload request.options.context := by
  simp only [Target.source] at ends
  split at ends
  next => cases ends
  next fault failed =>
    cases fault
    exact (fetch_overflows_iff ..).mp failed

theorem overflows_of_blames {targets : List Target} {request : Request} {repo message : String}
    (blames : Blames (targets.map (Target.source · request)) (.fetch repo message)) :
    ∃ t ∈ targets, t.name = repo ∧ ∃ payload,
      t.probe request = .ok { found := true, payload } ∧
      Overflows t.fetched payload request.options.context := by
  generalize same : Failure.fetch repo message = failure at blames
  cases blames with
  | fetch i payload text done ends =>
    cases same
    obtain ⟨source, there, probed⟩ := probeAt_done done
    rw [fetchAt, there] at ends
    rw [nameAt, there]
    obtain ⟨t, member, rfl⟩ := List.mem_map.mp (List.mem_of_getElem? there)
    exact ⟨t, member, rfl, payload, Target.probe_of_source probed, Target.overflows_of_source ends⟩
  | probe | lostProbe | lostFetch => cases same

def sourcesOf (targets : Nat -> List Target) (turns : List Turn) (k : Nat) :
    List (Source Candidates) :=
  (targets k).map (Target.source · ((turns.filterMap Turn.request?)[k]?.getD default))

/-- Nothing is out of bounds in what a probe brings, and the fetch of it fails just if the context
of some match overflows. A run that ends in a fetch error has a repository where one does. -/
theorem fetch_fails_by_overflow (u : Volume) (dir query : String) (dots : Bool) (asked : Options)
    (finding : Finding Candidates) (probed : probe u dir dots query asked = .ok finding) :
    (finding.payload.firstHit ≤ finding.payload.files.length ∧
      ∀ (v : Volume) (revision : String) (o : Options),
        (Overflows v finding.payload o.context ->
          fetch v revision finding.payload o = .error .contextTooLong) ∧
        (¬ Overflows v finding.payload o.context ->
          ∃ harvest, fetch v revision finding.payload o = .ok harvest)) ∧
    ∀ (targets : Nat -> List Target) (maxProbes nextLimit : Nat) (turns : List Turn) (k : Nat)
      (r : Run Candidates) (repo message : String),
      ((Runs.idle maxProbes nextLimit).play (sourcesOf targets turns) turns).1.runs[k]? = some r ->
      r.outcome? = some (.error (.fetch repo message)) ->
      ∃ t ∈ targets k, t.name = repo ∧ ∃ payload,
        t.probe r.request = .ok { found := true, payload } ∧
        Overflows t.fetched payload r.request.options.context := by
  refine ⟨⟨(probe_first probed).2.1, fun v revision o => ⟨fun overflows => ?_, fun none => ?_⟩⟩, ?_⟩
  · exact (fetch_overflows_iff ..).mpr overflows
  · obtain ⟨full, _, fetched⟩ := fetch_of_fits (not_overflows_iff.mp none)
    exact ⟨_, fetched revision o rfl⟩
  · intro targets maxProbes nextLimit turns k r repo message there failed
    obtain ⟨asked, reached⟩ := Runs.reached (sourcesOf targets turns) maxProbes nextLimit turns k r there
    have phase := Run.phase_of_outcome failed
    have blames := reached.lawful.blamed (.fetch repo message) (by rw [phase]; rfl)
    have own : sourcesOf targets turns k = (targets k).map (Target.source · r.request) := by
      rw [sourcesOf, asked]
      rfl
    rw [own, ← List.map_drop] at blames
    obtain ⟨t, member, blamed⟩ := overflows_of_blames blames
    exact ⟨t, List.mem_of_mem_drop member, blamed⟩

-- The second line of the file leaves room for this much context and no more.
theorem twoLines_room :
    probe twoLines "r" false "two" {} = .ok (inTwoLines wordTwo 0) ∧
      (∃ harvest, fetch twoLines "" (inTwoLines wordTwo 0).payload
        { context := Count.bound - 3, offset := Count.bound - 1, limit := Count.bound - 1 } =
          .ok harvest) ∧
      fetch twoLines "" (inTwoLines wordTwo 0).payload { context := Count.bound - 2 } =
        .error .contextTooLong := by
  have probed : probe twoLines "r" false "two" {} = .ok (inTwoLines wordTwo 0) := by
    decide +kernel
  have content : twoLines.readText "r/a.txt" = .ok "one\ntwo\n" := by decide +kernel
  have own : ∀ f ∈ (inTwoLines wordTwo 0).payload.files.drop 0, f.path = "r/a.txt" := by
    simp [inTwoLines]
  have fails := (fetch_fails_by_overflow twoLines "r" "two" false {} _ probed).1.2 twoLines ""
  refine ⟨probed, (fails _).2 (not_overflows_of_few ?_), (fails _).1 ?_⟩
  · intro f member text read
    rw [own f member, content] at read
    cases read
    decide +kernel
  · exact ⟨{ name := "a.txt", path := "r/a.txt" }, List.mem_singleton.mpr rfl, _, 1, "two".toList,
      content, by decide +kernel, by decide +kernel, by decide +kernel⟩

def twoLinesTarget : Target where
  name := "r"
  dir := "r"
  dots := false
  revision := ""
  task := 51
  probed := twoLines
  fetched := twoLines

-- One search, run to its end.
def wideSearch : List Turn :=
  .begin { query := "two", options := { context := Count.bound - 1 }, limit := 10 } ::
    List.map (Turn.move 0) (Move.opening 1 ++ [.endProbe 0, .advance, .advance, .launch, .advance,
      .endFetch 0, .advance, .advance, .reap, .advance])

/-- The widest context makes the fetch of the match fail, and the search with it. -/
theorem widest_context_fails :
    (∃ finding, probe twoLines "r" false "two" { context := Count.bound - 1 } = .ok finding ∧
      fetch twoLines "" finding.payload { context := Count.bound - 1 } = .error .contextTooLong) ∧
    ∃ r, ((Runs.idle 1 9).play (sourcesOf (fun _ => [twoLinesTarget]) wideSearch)
        wideSearch).1.runs[0]? = some r ∧
      r.outcome? = some (.error (.fetch "r"
        "Fetch task failed: task 51 panicked with message \"attempt to add with overflow\"")) := by
  refine ⟨⟨inTwoLines wordTwo 0, by decide +kernel, by decide +kernel⟩, ?_⟩
  have ends : (((Runs.idle 1 9).play (sourcesOf (fun _ => [twoLinesTarget]) wideSearch)
      wideSearch).1.runs[0]?.any fun r => r.outcome?.any (fun outcome => !outcome.isOk) &&
        r.phase.failure? == some (.fetch "r"
          "Fetch task failed: task 51 panicked with message \"attempt to add with overflow\"")) =
      true := by
    decide +kernel
  obtain ⟨r, there, failed⟩ := (Option.any_eq_true _ _).mp ends
  rw [Bool.and_eq_true, beq_iff_eq] at failed
  obtain ⟨outcome, ended, failing⟩ := (Option.any_eq_true _ _).mp failed.1
  cases outcome with
  | ok page => cases failing
  | error failure =>
    have told := failed.2
    rw [Run.phase_of_outcome ended] at told
    cases told
    exact ⟨r, there, ended⟩

end FleetSearch.Checkout
