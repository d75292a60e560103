import FleetSearch.Proofs.Search.Cutoff
import FleetSearch.Proofs.Search.Schedule
import Mathlib.Algebra.GroupWithZero.Nat

set_option autoImplicit false

/-!
What a page is meant to hold: the results of a search that looks at one repository after the other
and stops right after the match that fills the page.
-/

namespace FleetSearch.Search

variable {P : Type}

namespace Source

def found (source : Source P) : Bool :=
  match source.probe with
  | .done finding => finding.found
  | _ => false

def harvest? (source : Source P) : Option Harvest :=
  match source.probe with
  | .done finding =>
    if finding.found then
      match source.fetch finding.payload with
      | .done harvest => some harvest
      | _ => none
    else none
  | _ => none

def result? (source : Source P) : Option RepoResult :=
  source.harvest?.map fun harvest =>
    { repo := source.name
      matched := harvest.matched
      filesWithMatch := harvest.filesWithMatch
      revision := harvest.revision }

def succeeds (source : Source P) : Bool :=
  match source.probe with
  | .done finding => !finding.found || source.harvest?.isSome
  | _ => false

end Source

def harvestAt (sources : List (Source P)) (i : Nat) : Option Harvest :=
  sources[i]?.bind Source.harvest?

def nameAt (sources : List (Source P)) (i : Nat) : String :=
  (sources[i]?).elim "" Source.name

def LosesFetch (sources : List (Source P)) (i : Nat) : Prop :=
  ∃ payload, probeAt sources i = .done { found := true, payload } ∧
    fetchAt sources i payload = .lost

/-- The page of a search that looks at one source after the other. -/
def scanPage (sources : List (Source P)) (limit offset nextLimit reposScanned : Nat) : Page :=
  let cut := cutAfter limit (sources.map Source.found)
  let scanned := sources.take cut
  { results := scanned.filterMap Source.result?
    filesOpened := ((scanned.filterMap Source.harvest?).map Harvest.filesOpened).sum
    reposScanned
    nextOffset := offset + cut
    otherRepos := sources.length - cut
    nextLimit }

theorem probeAt_done {sources : List (Source P)} {i : Nat} {finding : Finding P}
    (done : probeAt sources i = .done finding) :
    ∃ source, sources[i]? = some source ∧ source.probe = .done finding := by
  cases there : sources[i]? with
  | none => simp [probeAt, there] at done
  | some source => exact ⟨source, rfl, by simpa [probeAt, there] using done⟩

theorem found_of_done {sources : List (Source P)} {i : Nat} {finding : Finding P}
    (done : probeAt sources i = .done finding) :
    (sources.map Source.found)[i]? = some finding.found := by
  obtain ⟨source, there, probed⟩ := probeAt_done done
  simp [there, Source.found, probed]

theorem harvestAt_fetched {sources : List (Source P)} {i : Nat} {payload : P} {harvest : Harvest}
    (done : probeAt sources i = .done { found := true, payload })
    (brings : (fetchAt sources i payload).report? .fetch = some (.ok harvest)) :
    harvestAt sources i = some harvest := by
  obtain ⟨source, there, probed⟩ := probeAt_done done
  have fetched : source.fetch payload = .done harvest := by
    simp only [fetchAt, there, Option.elim_some] at brings
    cases ending : source.fetch payload <;> simp_all [Ending.report?]
  simp [harvestAt, there, Source.harvest?, probed, fetched]

theorem fetched_of_harvestAt {sources : List (Source P)} {i : Nat} {payload : P}
    {harvest : Harvest} (done : probeAt sources i = .done { found := true, payload })
    (brings : harvestAt sources i = some harvest) : fetchAt sources i payload = .done harvest := by
  obtain ⟨source, there, probed⟩ := probeAt_done done
  rw [harvestAt, there, Option.bind_some, Source.harvest?, probed] at brings
  rw [fetchAt, there, Option.elim_some]
  cases ending : source.fetch payload <;> simp_all

theorem harvestAt_unfound {sources : List (Source P)} {i : Nat} {payload : P}
    (done : probeAt sources i = .done { found := false, payload }) :
    harvestAt sources i = none := by
  obtain ⟨source, there, probed⟩ := probeAt_done done
  simp [harvestAt, there, Source.harvest?, probed]

theorem filterMap_take (sources : List (Source P)) {A : Type} (f : Source P -> Option A)
    (cut : Nat) :
    (sources.take cut).filterMap f = (List.range cut).filterMap fun i => sources[i]?.bind f := by
  induction cut with
  | zero => simp
  | succ cut ih =>
    rw [List.take_add_one, List.range_succ, List.filterMap_append, List.filterMap_append, ih]
    cases there : sources[cut]? <;> simp [there, List.filterMap_cons]

def harvestsTo (sources : List (Source P)) (cut : Nat) : List (Nat × Harvest) :=
  (List.range cut).filterMap fun i => (harvestAt sources i).map fun harvest => (i, harvest)

theorem map_snd_harvestsTo (sources : List (Source P)) (cut : Nat) :
    (harvestsTo sources cut).map Prod.snd = (sources.take cut).filterMap Source.harvest? := by
  rw [harvestsTo, List.map_filterMap, filterMap_take]
  congr 1
  funext i
  simp only [harvestAt, Option.map_map]
  exact Option.map_id'

theorem map_result_harvestsTo (sources : List (Source P)) (cut : Nat)
    (result : Nat × Harvest -> RepoResult)
    (own : ∀ (i : Nat) (harvest : Harvest), result (i, harvest) =
      { repo := nameAt sources i
        matched := harvest.matched
        filesWithMatch := harvest.filesWithMatch
        revision := harvest.revision }) :
    (harvestsTo sources cut).map result = (sources.take cut).filterMap Source.result? := by
  rw [harvestsTo, List.map_filterMap, filterMap_take]
  congr 1
  funext i
  cases there : sources[i]? with
  | none => simp [harvestAt, there]
  | some source =>
    cases brings : source.harvest? <;> simp [harvestAt, there, brings, Source.result?, own, nameAt]

theorem succeeds_of_done {sources : List (Source P)} {i : Nat} {finding : Finding P}
    (done : probeAt sources i = .done finding)
    (brings : finding.found = true -> (harvestAt sources i).isSome = true)
    {source : Source P} (there : sources[i]? = some source) : source.succeeds = true := by
  obtain ⟨other, same, probed⟩ := probeAt_done done
  obtain rfl : source = other := by simpa [there] using same
  cases found : finding.found with
  | false => simp [Source.succeeds, probed, found]
  | true => simpa [Source.succeeds, probed, found, harvestAt, there] using brings found

theorem cutAfter_vacant (sources : List (Source P)) (limit : Nat)
    (vacant : sources = [] ∨ limit = 0) : cutAfter limit (sources.map Source.found) = 0 := by
  rcases vacant with rfl | rfl
  · cases limit <;> rfl
  · rw [cutAfter]

theorem scanPage_vacant (sources : List (Source P)) (limit offset nextLimit : Nat)
    (vacant : sources = [] ∨ limit = 0) :
    scanPage sources limit offset nextLimit 0 =
      { nextOffset := offset, otherRepos := sources.length, nextLimit } := by
  simp [scanPage, cutAfter_vacant sources limit vacant]

end FleetSearch.Search
