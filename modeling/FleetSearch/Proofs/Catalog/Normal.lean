import FleetSearch.Catalog.Write
import FleetSearch.Proofs.Catalog.Accepted
import FleetSearch.Proofs.Json.Bounds
import FleetSearch.Proofs.Json.Records

set_option autoImplicit false

namespace FleetSearch

open FleetSearch.Json FleetSearch.Json.Reader FleetSearch.Json.Shape

def Given (n : Nat) : Prop :=
  n ≠ 0 ∧ n < wordBound

structure Repo.Normal (r : Repo) : Prop where
  pollMillis : Given r.pollMillis
  vcs : r.vcs ≠ ""
  baseUrl : r.links.baseUrl ≠ ""
  anchor : r.links.anchor ≠ ""

structure Catalog.Normal (c : Catalog) : Prop where
  repos : ∀ r ∈ c.repos, r.Normal
  maxSyncs : Given c.maxSyncs
  maxProbes : Given c.maxProbes
  firstPage : Given c.firstPage
  nextPage : Given c.nextPage
  healthPath : c.healthPath ≠ ""

theorem orDefault_given {value standard : Nat} (fits : value < wordBound) (given : Given standard) :
    Given (orDefault value standard) := by
  unfold orDefault
  split
  next => exact given
  next some => exact ⟨some, fits⟩

theorem orDefault_of_given {value : Nat} (given : Given value) (standard : Nat) :
    orDefault value standard = value :=
  if_neg given.1

theorem textOr_ne {value standard : String} (given : standard ≠ "") :
    textOr value standard ≠ "" := by
  unfold textOr
  split
  next => exact given
  next some => simpa using some

theorem textOr_of_ne {value : String} (given : value ≠ "") (standard : String) :
    textOr value standard = value :=
  if_neg (by simpa using given)

theorem Repo.filled_normal {r : Repo} (fits : r.pollMillis < wordBound) : r.filled.Normal :=
  ⟨orDefault_given fits ⟨by decide, by decide⟩, textOr_ne (by decide), textOr_ne (by decide),
    textOr_ne (by decide)⟩

theorem Repo.Normal.filled {r : Repo} (normal : r.Normal) : r.filled = r := by
  have links : r.links.filled = r.links := by
    simp only [LinkPattern.filled, textOr_of_ne normal.baseUrl, textOr_of_ne normal.anchor]
  simp only [Repo.filled, orDefault_of_given normal.pollMillis, textOr_of_ne normal.vcs, links]

structure CatalogDraft.Fits (d : CatalogDraft) : Prop where
  repos : ∀ r ∈ d.repos, r.pollMillis < wordBound
  maxSyncs : d.maxSyncs < wordBound
  maxProbes : d.maxProbes < wordBound
  firstPage : d.firstPage < wordBound
  nextPage : d.nextPage < wordBound

theorem Repo.makes_shape : Makes Repo.shape.read (·.pollMillis < wordBound) := by
  have start : Repo.shape.start.pollMillis < wordBound := by decide
  refine makes_record start fun f member => ?_
  simp only [Repo.shape, List.mem_cons, List.not_mem_nil, or_false] at member
  rcases member with rfl | rfl | rfl | rfl | rfl | rfl | rfl | rfl | rfl
  next => exact keeps_needed (keeps_beside fun _ _ here => here)
  iterate 2 next => exact keeps_beside fun _ _ here => here
  next => exact keeps_known (makes_count _) fun _ _ _ fits => fits
  all_goals exact keeps_beside fun _ _ here => here

theorem CatalogDraft.makes_shape : Makes CatalogDraft.shape.read CatalogDraft.Fits := by
  have start : CatalogDraft.shape.start.Fits :=
    ⟨by simp [CatalogDraft.shape], by decide, by decide, by decide, by decide⟩
  refine makes_record start fun f member => ?_
  simp only [CatalogDraft.shape, List.mem_cons, List.not_mem_nil, or_false] at member
  rcases member with rfl | rfl | rfl | rfl | rfl | rfl | rfl
  next => exact keeps_beside fun _ _ here => { here with }
  next =>
    exact keeps_known (makes_list Repo.makes_shape) fun _ _ here fits => { here with repos := fits }
  next => exact keeps_known (makes_count _) fun _ _ here fits => { here with maxSyncs := fits }
  next => exact keeps_known (makes_count _) fun _ _ here fits => { here with maxProbes := fits }
  next => exact keeps_known (makes_count _) fun _ _ here fits => { here with firstPage := fits }
  next => exact keeps_known (makes_count _) fun _ _ here fits => { here with nextPage := fits }
  next => exact keeps_beside fun _ _ here => { here with }

theorem CatalogDraft.complete_normal {d : CatalogDraft} (fits : d.Fits) : d.complete.Normal := by
  refine ⟨fun r member => ?_, orDefault_given fits.maxSyncs ⟨by decide, by decide⟩,
    orDefault_given fits.maxProbes ⟨by decide, by decide⟩,
    orDefault_given fits.firstPage ⟨by decide, by decide⟩,
    orDefault_given fits.nextPage ⟨by decide, by decide⟩, textOr_ne (by decide)⟩
  obtain ⟨written, there, rfl⟩ := List.mem_map.mp member
  exact Repo.filled_normal (fits.repos written there)

-- The place of a checkout is not written.
def Repo.unplaced (r : Repo) : Repo :=
  { r with path := none }

def Catalog.unplaced (c : Catalog) : Catalog :=
  { c with repos := c.repos.map Repo.unplaced }

theorem LinkPattern.recovers (p : LinkPattern) : Recovers LinkPattern.shape.read p.toValue p := by
  refine recovers_record ?_
  refine .member (by rfl) (by decide) (recovers_known (recovers_string _ p.baseUrl) _) ?_
  refine .member (by rfl) (by decide) (recovers_known (recovers_string _ p.anchor) _) ?_
  exact .done (by decide)

theorem recovers_texts (expected : String) (s : Option String) :
    Recovers (Reader.optional (Reader.string expected)) (Value.ofOption .text s) s :=
  recovers_optional (recovers_string _) (fun _ => by simp [Value.chars, quoted]) s

theorem recovers_flags (b : Option Bool) :
    Recovers (Reader.optional Reader.bool) (Value.ofOption .bool b) b :=
  recovers_optional recovers_bool (by decide) b

theorem Repo.Normal.unplaced {r : Repo} (normal : r.Normal) : r.unplaced.Normal :=
  ⟨normal.pollMillis, normal.vcs, normal.baseUrl, normal.anchor⟩

theorem Repo.recovers {r : Repo} (fits : r.pollMillis < wordBound) :
    Recovers Repo.shape.read r.toValue r.unplaced := by
  refine recovers_record ?_
  refine .member (by rfl) (by decide) (recovers_needed (recovers_string _ r.name) _) ?_
  refine .member (by rfl) (by decide) (recovers_known (recovers_texts _ r.url) _) ?_
  refine .member (by rfl) (by decide) (recovers_known (recovers_count _ fits) _) ?_
  refine .member (by rfl) (by decide) (recovers_known (recovers_string _ r.vcs) _) ?_
  refine .member (by rfl) (by decide) (recovers_known r.links.recovers _) ?_
  refine .member (by rfl) (by decide) (recovers_known (recovers_bool r.excludeDotFiles) _) ?_
  refine .member (by rfl) (by decide) (recovers_known (recovers_flags r.poll) _) ?_
  refine .member (by rfl) (by decide) (recovers_known (recovers_flags r.push) _) ?_
  exact .done (by decide)

theorem recovers_repos {repos : List Repo} (fits : ∀ r ∈ repos, r.pollMillis < wordBound) :
    Recovers (Reader.list Repo.shape.read) (.list (repos.map Repo.toValue))
      (repos.map Repo.unplaced) := by
  refine recovers_list ?_
  rw [List.forall₂_map_left_iff, List.forall₂_map_right_iff, List.forall₂_same]
  exact fun r member => Repo.recovers (fits r member)

namespace Catalog

variable {c : Catalog}

theorem Normal.recovers (normal : c.Normal) :
    Recovers Catalog.shape.read c.toValue { c.unplaced with bindAddress := "" } := by
  have repos := recovers_repos fun r member => (normal.repos r member).pollMillis.2
  refine recovers_record ?_
  refine .member (by rfl) (by decide) (recovers_needed (recovers_string _ c.checkouts) _) ?_
  refine .member (by rfl) (by decide) (recovers_needed repos _) ?_
  refine .member (by rfl) (by decide) (recovers_needed (recovers_count _ normal.maxSyncs.2) _) ?_
  refine .member (by rfl) (by decide) (recovers_needed (recovers_count _ normal.maxProbes.2) _) ?_
  refine .member (by rfl) (by decide) (recovers_needed (recovers_count _ normal.firstPage.2) _) ?_
  refine .member (by rfl) (by decide) (recovers_needed (recovers_count _ normal.nextPage.2) _) ?_
  refine .member (by rfl) (by decide) (recovers_needed (recovers_string _ c.healthPath) _) ?_
  exact .done (by decide)

def asDraft (c : Catalog) : CatalogDraft where
  checkouts := some c.checkouts
  repos := c.repos.map Repo.unplaced
  maxSyncs := c.maxSyncs
  maxProbes := c.maxProbes
  firstPage := c.firstPage
  nextPage := c.nextPage
  healthPath := c.healthPath

theorem Normal.recovers_draft (normal : c.Normal) :
    Recovers CatalogDraft.shape.read c.toValue c.asDraft := by
  have repos := recovers_repos fun r member => (normal.repos r member).pollMillis.2
  have place : Recovers (Reader.optional pathField) (.text c.checkouts) (some c.checkouts) :=
    recovers_texts _ (some c.checkouts)
  refine recovers_record ?_
  refine .member (by rfl) (by decide) (recovers_known place _) ?_
  refine .member (by rfl) (by decide) (recovers_known repos _) ?_
  refine .member (by rfl) (by decide) (recovers_known (recovers_count _ normal.maxSyncs.2) _) ?_
  refine .member (by rfl) (by decide) (recovers_known (recovers_count _ normal.maxProbes.2) _) ?_
  refine .member (by rfl) (by decide) (recovers_known (recovers_count _ normal.firstPage.2) _) ?_
  refine .member (by rfl) (by decide) (recovers_known (recovers_count _ normal.nextPage.2) _) ?_
  refine .member (by rfl) (by decide) (recovers_known (recovers_string _ c.healthPath) _) ?_
  exact .done (by decide)

theorem Normal.complete_asDraft (normal : c.Normal)
    (address : c.bindAddress = ({} : Catalog).bindAddress) :
    c.asDraft.complete = c.unplaced := by
  have repos : (c.repos.map Repo.unplaced).map Repo.filled = c.repos.map Repo.unplaced := by
    rw [List.map_map]
    exact List.map_congr_left fun r member => (normal.repos r member).unplaced.filled
  simp only [CatalogDraft.complete, asDraft, unplaced, repos, orDefault_of_given normal.maxSyncs,
    orDefault_of_given normal.maxProbes, orDefault_of_given normal.firstPage,
    orDefault_of_given normal.nextPage, textOr_of_ne normal.healthPath, Option.getD_some, address]

theorem Normal.parse_render (normal : c.Normal)
    (address : c.bindAddress = ({} : Catalog).bindAddress)
    (names : checkNames [] c.repos = .ok ()) :
    parse c.toValue.render = .ok c.unplaced := by
  refine (parse_iff _ _).mpr ⟨c.asDraft, normal.recovers_draft.whole, ?_,
    (normal.complete_asDraft address).symm⟩
  have same : c.asDraft.repos.map Repo.name = c.repos.map Repo.name := by
    rw [asDraft, List.map_map]
    rfl
  rwa [checkNames_ok_iff, same, ← checkNames_ok_iff]

/-- A text is a catalog just if it can be decoded and no repository offends against those before
it, the first of which decides the fault. A catalog that is read keeps the order of its repositories
and has its defaults filled in, and what it is written as gives it back but for the places of its
checkouts, and for the address to listen on if it is read by the shape that it is written in. -/
theorem parse_in_normal_form (text : String) :
    (∀ fault, CatalogDraft.shape.read.whole text = .error fault ->
      parse text = .error (.malformed fault text)) ∧
    ∀ draft, CatalogDraft.shape.read.whole text = .ok draft ->
      ((∃ c, parse text = .ok c) ↔
        (∀ r ∈ draft.repos, r.name ≠ "") ∧ (draft.repos.map Repo.name).Nodup) ∧
      (∀ fault, parse text = .error fault ↔
        ∃ before r after, draft.repos = before ++ r :: after ∧
          (∀ q ∈ before, q.name ≠ "") ∧ (before.map Repo.name).Nodup ∧
          Offends (before.map Repo.name) r fault) ∧
      ∀ c, parse text = .ok c ->
        c.repos = draft.repos.map Repo.filled ∧ c.Normal ∧
        parse c.toValue.render = .ok c.unplaced ∧
        Catalog.shape.read.whole c.toValue.render = .ok { c.unplaced with bindAddress := "" } := by
  refine ⟨fun fault malformed => by rw [parse, malformed], fun draft decoded => ?_⟩
  have named : ∀ repos, checkNames [] repos = .ok () ↔
      (∀ r ∈ repos, r.name ≠ "") ∧ (repos.map Repo.name).Nodup := by
    simp [checkNames_ok_iff]
  have known : ∀ c, parse text = .ok c ↔
      checkNames [] draft.repos = .ok () ∧ c = draft.complete := by
    simp [parse_iff, decoded]
  refine ⟨by simp [known, named], fun fault => ?_, fun c read => ?_⟩
  · have checked : parse text = .error fault ↔ checkNames [] draft.repos = .error fault := by
      rw [parse, decoded]
      cases checked : checkNames [] draft.repos <;>
        simp [checked, bind, Except.bind, pure, Except.pure]
    rw [checked, checkNames_error_iff]
    simp only [List.append_nil, offends_reverse, named, and_assoc]
  · obtain ⟨passed, rfl⟩ := (known c).mp read
    have normal := CatalogDraft.complete_normal (CatalogDraft.makes_shape.whole decoded)
    have names : checkNames [] draft.complete.repos = .ok () := by
      rwa [checkNames_ok_iff, complete_names, ← checkNames_ok_iff]
    exact ⟨rfl, normal, normal.parse_render rfl names, normal.recovers.whole⟩

-- Most is left out or zero, one count is as large as it can be, and one checkout has a place.
def sparse : String := String.join
  ["\x7b\"max-concurrent-indexers\":0,\"max-concurrent-searchers\":18446744073709551615,",
    "\"repos\":[\x7b\"name\":\"b\",\"path\":\"/x\",\"vcs\":\"\"\x7d,",
    "\x7b\"ms-between-poll\":7,\"url\":null,\"name\":\"a\"\x7d]\x7d"]

def sparseDraft : CatalogDraft where
  maxProbes := 18446744073709551615
  repos := [{ name := "b", path := some "/x" }, { name := "a", pollMillis := 7 }]

-- The third repository has the name of the first, and the fourth has none.
def clashing : String := String.join
  ["\x7b\"repos\":[\x7b\"name\":\"b\"\x7d,\x7b\"name\":\"a\"\x7d,\x7b\"name\":\"b\"\x7d,",
    "\x7b\"name\":\"\"\x7d]\x7d"]

theorem sparse_in_normal_form :
    (∃ c, parse sparse = .ok c ∧ c.Normal ∧ c.repos.map Repo.name = ["b", "a"] ∧
      c.repos.map Repo.path = [some "/x", none] ∧
      parse c.toValue.render = .ok c.unplaced ∧
      Catalog.shape.read.whole c.toValue.render = .ok { c.unplaced with bindAddress := "" }) ∧
    parse clashing = .error (.duplicate "b") := by
  have decoded : CatalogDraft.shape.read.whole sparse = .ok sparseDraft := by decide +kernel
  obtain ⟨accepted, _, each⟩ := (parse_in_normal_form sparse).2 sparseDraft decoded
  obtain ⟨c, read⟩ := accepted.mpr (by decide)
  obtain ⟨repos, normal, configured, written⟩ := each c read
  have clash : CatalogDraft.shape.read.whole clashing =
      .ok { repos := [{ name := "b" }, { name := "a" }, { name := "b" }, { name := "" }] } := by
    decide +kernel
  obtain ⟨_, refused, _⟩ := (parse_in_normal_form clashing).2 _ clash
  refine ⟨⟨c, read, normal, by rw [repos]; rfl, by rw [repos]; rfl, configured, written⟩,
    (refused _).mpr ⟨[{ name := "b" }, { name := "a" }], { name := "b" }, [{ name := "" }], rfl,
      by decide, by decide, .duplicate (by decide) (by decide)⟩⟩

end Catalog

end FleetSearch
