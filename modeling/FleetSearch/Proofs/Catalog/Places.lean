import FleetSearch.Proofs.Catalog.Accepted
import FleetSearch.Proofs.Git.Confined
import Mathlib.Data.List.Pairwise

set_option autoImplicit false

namespace FleetSearch.Catalog

open FleetSearch.Disk FleetSearch.Disk.Path

def place (c : Catalog) (cwd : List String) (r : Repo) : List String :=
  leadsTo cwd (c.directory r)

structure Spread (c : Catalog) (cwd : List String) : Prop where
  inward : ∀ r ∈ c.repos, r.path = none -> IsInward r.name
  -- no name leads to, or into, the checkout of one that is written differently
  unmixed : ∀ r ∈ c.repos, ∀ s ∈ c.repos, r.path = none -> s.path = none ->
    names r.name <+: names s.name -> r.name = s.name
  beside : ∀ r ∈ c.repos, ∀ s ∈ c.repos, ∀ p ∈ r.path, s.path = none ->
    Apart (leadsTo cwd p) (leadsTo cwd c.checkouts ++ names s.name)
  own : c.repos.Pairwise fun r s => ∀ p ∈ r.path, ∀ q ∈ s.path,
    Apart (leadsTo cwd p) (leadsTo cwd q)

instance (c : Catalog) (cwd : List String) : Decidable (c.Spread cwd) :=
  decidable_of_iff
    ((∀ r ∈ c.repos, r.path = none -> IsInward r.name) ∧
      (∀ r ∈ c.repos, ∀ s ∈ c.repos, r.path = none -> s.path = none ->
        names r.name <+: names s.name -> r.name = s.name) ∧
      (∀ r ∈ c.repos, ∀ s ∈ c.repos, ∀ p ∈ r.path, s.path = none ->
        Apart (leadsTo cwd p) (leadsTo cwd c.checkouts ++ names s.name)) ∧
      c.repos.Pairwise fun r s => ∀ p ∈ r.path, ∀ q ∈ s.path,
        Apart (leadsTo cwd p) (leadsTo cwd q))
    ⟨fun ⟨inward, unmixed, beside, own⟩ => ⟨inward, unmixed, beside, own⟩,
      fun spread => ⟨spread.inward, spread.unmixed, spread.beside, spread.own⟩⟩

variable {c : Catalog} {cwd : List String} {r s : Repo}

theorem Spread.of_fileNames (plain : ∀ r ∈ c.repos, r.path = none ∧ IsFileName r.name) :
    c.Spread cwd where
  inward r member _ := (plain r member).2.isInward
  unmixed r first s second _ _ above := by
    rw [(plain r first).2.names, (plain s second).2.names] at above
    simpa using above
  beside r member _ _ p given := by simp [(plain r member).1] at given
  own := (List.pairwise_of_forall fun _ _ => trivial).imp_of_mem fun first _ _ p given => by
    simp [(plain _ first).1] at given

theorem place_given {p : String} (given : r.path = some p) : c.place cwd r = leadsTo cwd p := by
  rw [place, directory, given, Option.getD_some]

theorem Spread.place (spread : c.Spread cwd) (member : r ∈ c.repos) (default : r.path = none) :
    c.place cwd r = leadsTo cwd c.checkouts ++ names r.name := by
  have inward := spread.inward r member default
  rw [Catalog.place, directory, default, Option.getD_none, leadsTo_join cwd _ _ inward.relative,
    inward.leadsTo]

theorem Spread.apart (spread : c.Spread cwd) (first : r ∈ c.repos) (second : s ∈ c.repos)
    (named : r.name ≠ s.name)
    (own : ∀ p ∈ r.path, ∀ q ∈ s.path, Apart (leadsTo cwd p) (leadsTo cwd q)) :
    Apart (c.place cwd r) (c.place cwd s) := by
  cases given : r.path with
  | none =>
    rw [spread.place first given]
    cases other : s.path with
    | none =>
      rw [spread.place second other]
      unfold Apart
      rw [List.prefix_append_right_inj, List.prefix_append_right_inj]
      exact ⟨fun above => named (spread.unmixed r first s second given other above),
        fun above => named (spread.unmixed s second r first other given above).symm⟩
    | some q =>
      rw [place_given other]
      exact (spread.beside s second r first q other given).symm
  | some p =>
    rw [place_given given]
    cases other : s.path with
    | none =>
      rw [spread.place second other]
      exact spread.beside r first s second p given other
    | some q =>
      rw [place_given other]
      exact own p given q other

/-- The checkouts of an accepted catalog lie apart, and those that were given no path lie where
checkouts do. So the sync of one leaves the files of all others, unless a link on the way, or a
repository that lies elsewhere, leads it out of its place. -/
theorem checkouts_apart (c : Catalog) (cwd : List String) (accepted : c.Accepted)
    (spread : c.Spread cwd) :
    c.repos.Pairwise (fun r s => Apart (c.place cwd r) (c.place cwd s)) ∧
      (∀ r ∈ c.repos, r.path = none -> ∃ below, below ≠ [] ∧
        c.place cwd r = leadsTo cwd c.checkouts ++ below) ∧
      ∀ r ∈ c.repos, ∀ s ∈ c.repos, r.name ≠ s.name -> cwd = [] -> ∀ v : Volume,
        v.IsStraight (c.directory r) ->
        (∀ site, Git.Site.find? v (c.directory r) = some site -> site.tree <+: site.git) ->
          ∀ path, (Git.sync v r.url (c.directory r)).volume.root.file? (c.place cwd s ++ path) =
            v.root.file? (c.place cwd s ++ path) := by
  have named : c.repos.Pairwise fun r s => r.name ≠ s.name :=
    List.pairwise_map.mp accepted.names.2
  have apart : c.repos.Pairwise fun r s => Apart (c.place cwd r) (c.place cwd s) := by
    refine (named.and spread.own).imp_of_mem fun first second pair => ?_
    exact spread.apart first second pair.1 pair.2
  refine ⟨apart, ?_, ?_⟩
  · intro r member default
    exact ⟨names r.name, (spread.inward r member default).named, spread.place member default⟩
  · intro r first s second differ home v straight housed path
    have symm : Std.Symm fun r s => Apart (c.place cwd r) (c.place cwd s) :=
      ⟨fun _ _ => Apart.symm⟩
    have pair := apart.forall first second (fun same => differ (same ▸ rfl))
    refine Git.sync_confined r.url straight housed ?_
    have outside := (pair.below path).1
    rwa [home] at outside ⊢

-- Two names below one directory, one of them with an origin, and a path beside the checkouts.
def neighbours : String :=
  "\x7b\"dbpath\":\"db\",\"repos\":[\x7b\"name\":\"org/web\",\"url\":\"origin\"\x7d,\x7b\"name\":\"org/api\"\x7d,\x7b\"name\":\"docs\",\"path\":\"site\"\x7d]\x7d"

-- The first of them is a repository.
def neighbourhood : Volume where
  root := .dir [("db", .dir [("org", .dir [
    ("api", .dir [("f.rs", .file "one".toUTF8)]),
    ("web", .dir [(".git", .dir [("HEAD", .file "ref: refs/heads/main".toUTF8),
      ("objects", .dir []), ("refs", .dir [])]), ("f.rs", .file "two".toUTF8)])])])]

theorem neighbours_apart :
    ∃ c, Catalog.parse neighbours = .ok c ∧ c.Spread [] ∧
      c.repos.map (c.place []) = [["db", "org", "web"], ["db", "org", "api"], ["site"]] ∧
      c.repos.Pairwise (fun r s => Apart (c.place [] r) (c.place [] s)) ∧
      neighbourhood.root.file? ["db", "org", "api", "f.rs"] = some (.file "one".toUTF8) ∧
      (Git.sync neighbourhood (some "origin") "db/org/web").volume.root.file?
        ["db", "org", "api", "f.rs"] = some (.file "one".toUTF8) := by
  let web : Repo := { Repo.named "org/web" with url := some "origin" }
  let api : Repo := .named "org/api"
  let c : Catalog :=
    { checkouts := "db", repos := [web, api, { Repo.named "docs" with path := some "site" }] }
  have accepted : Catalog.parse neighbours = .ok c := by decide +kernel
  have spread : c.Spread [] := by decide +kernel
  obtain ⟨apart, _, confined⟩ := checkouts_apart c [] (.inl ⟨_, accepted⟩) spread
  have straight : neighbourhood.IsStraight "db/org/web" := by decide +kernel
  have housed : ∀ site, Git.Site.find? neighbourhood "db/org/web" = some site ->
      site.tree <+: site.git := by
    have found : Git.Site.find? neighbourhood "db/org/web" =
        some { tree := ["db", "org", "web"], git := ["db", "org", "web", ".git"] } := by
      decide +kernel
    intro site same
    rw [found] at same
    cases same
    exact ⟨[".git"], rfl⟩
  have own : neighbourhood.root.file? ["db", "org", "api", "f.rs"] = some (.file "one".toUTF8) :=
    rfl
  have directory : c.directory web = "db/org/web" := by decide +kernel
  have place : c.place [] api = ["db", "org", "api"] := by decide +kernel
  have kept := confined web (by simp [c]) api (by simp [c]) (by decide) rfl neighbourhood
  rw [directory, place] at kept
  have same := kept straight housed ["f.rs"]
  rw [show web.url = some "origin" from rfl, List.cons_append, List.cons_append, List.cons_append,
    List.nil_append, own] at same
  exact ⟨c, accepted, spread, by decide +kernel, apart, own, same⟩

-- Four different names.
def crowded : String :=
  "\x7b\"dbpath\":\"db\",\"repos\":[\x7b\"name\":\"r\"\x7d,\x7b\"name\":\"./r\"\x7d,\x7b\"name\":\"r/sub\"\x7d,\x7b\"name\":\"..\"\x7d]\x7d"

/-- The second checkout is the first one, the third lies in it, and the last is outside. -/
theorem accepted_crowded :
    ∃ c, Catalog.parse crowded = .ok c ∧ c.repos.map Repo.path = [none, none, none, none] ∧
      ∀ cwd, leadsTo cwd c.checkouts = cwd ++ ["db"] ∧ c.repos.map (c.place cwd) =
        [cwd ++ ["db", "r"], cwd ++ ["db", "r"], cwd ++ ["db", "r", "sub"], cwd] := by
  let c : Catalog :=
    { checkouts := "db", repos := [.named "r", .named "./r", .named "r/sub", .named ".."] }
  have accepted : Catalog.parse crowded = .ok c := by decide +kernel
  have root : parts c.checkouts = [.name "db"] := by decide +kernel
  have ways : c.repos.map (fun r => parts (c.directory r)) =
      [[.name "db", .name "r"], [.name "db", .name "r"], [.name "db", .name "r", .name "sub"],
        [.name "db", .up]] := by decide +kernel
  refine ⟨c, accepted, rfl, fun cwd => ⟨by rw [leadsTo, root]; rfl, ?_⟩⟩
  calc c.repos.map (c.place cwd)
      = (c.repos.map fun r => parts (c.directory r)).map (List.foldl enter cwd) := by
        rw [List.map_map]; rfl
    _ = _ := by rw [ways]; simp [enter]

end FleetSearch.Catalog
