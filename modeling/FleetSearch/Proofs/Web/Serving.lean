import FleetSearch.Proofs.Catalog.Accepted
import FleetSearch.Proofs.Web.Template
import FleetSearch.Service.Basic
import FleetSearch.Web.Routes

set_option autoImplicit false

namespace FleetSearch.Web

open FleetSearch.Search

/-- A path that a route can be made for, beside the fixed ones. -/
structure Routable (path : String) : Prop where
  rooted : path.toList.head? = some '/'
  segments : ∀ piece ∈ Disk.Path.pieces path.toList,
    piece.head? ≠ some ':' ∧ piece.head? ≠ some '*'
  free : path ∉ [searchPath, reposPath, excludesPath]
  spelled : ∃ t, Template.Spells (Template.marks path.toList) t ∧ .rest ∉ t.dropLast ∧
    t.count .segment ≤ 25

theorem badSegment?_none (path : String) :
    Routes.badSegment? path = none ↔
      ∀ piece ∈ Disk.Path.pieces path.toList, piece.head? ≠ some ':' ∧ piece.head? ≠ some '*' := by
  rw [Routes.badSegment?, List.findSome?_eq_none_iff]
  refine forall₂_congr fun piece _ => ?_
  split
  next => simp
  next => simp
  next colon star =>
    simp only [true_iff]
    cases piece with
    | nil => simp
    | cons c rest =>
      have noColon : c ≠ ':' := fun same => colon rest (by rw [same])
      have noStar : c ≠ '*' := fun same => star rest (by rw [same])
      simp [noColon, noStar]

theorem ofHealthPath_iff (path : String) :
    (∃ routes, Routes.ofHealthPath path = .ok routes) ↔ Routable path := by
  constructor
  · rintro ⟨routes, made⟩
    rw [Routes.ofHealthPath] at made
    split at made
    next => cases made
    next rooted =>
      split at made
      next => cases made
      next segments =>
        split at made
        next => cases made
        next free =>
          split at made
          next => cases made
          next t read =>
            exact ⟨by simpa using rooted, (badSegment?_none path).mp segments, by simpa using free,
              t, (Template.read_iff path t).mp read⟩
  · rintro ⟨rooted, segments, free, t, spelled⟩
    rw [Routes.ofHealthPath, if_neg (by simp [rooted]), (badSegment?_none path).mpr segments]
    simp only
    rw [if_neg (by simpa using free), (Template.read_iff path t).mpr spelled]
    exact ⟨_, rfl⟩

theorem start_iff (c : Catalog) (v : Disk.Volume) :
    (∃ s, Service.start c v = .ok s) ↔ max c.maxSyncs 1 ≤ Permits.most := by
  unfold Service.start Service.ofCheckouts Fleet.start Permits.start
  by_cases room : max c.maxSyncs 1 ≤ Permits.most
  next => simp [room, bind, Except.bind, pure, Except.pure]
  next => simp [room, bind, Except.bind]

theorem orDefault_fits (written standard : Nat) (fits : max standard 1 ≤ Permits.most) :
    max (orDefault written standard) 1 ≤ Permits.most ↔ written ≤ Permits.most := by
  have some : 1 ≤ Permits.most := by decide
  unfold orDefault
  split
  next zero => simp [zero, fits]
  next => omega

theorem routable_plain {path : String} (rooted : path.toList.head? = some '/')
    (segments : ∀ piece ∈ Disk.Path.pieces path.toList,
      piece.head? ≠ some ':' ∧ piece.head? ≠ some '*')
    (free : path ∉ [searchPath, reposPath, excludesPath])
    (braceless : '\x7b' ∉ path.toList ∧ '\x7d' ∉ path.toList) : Routable path where
  rooted := rooted
  segments := segments
  free := free
  spelled := by
    refine ⟨_, Template.spells_plain path.toList braceless.1 braceless.2, fun member => ?_, ?_⟩
    · have among := (List.dropLast_sublist _).mem member
      simp at among
    · rw [List.count_eq_zero.mpr (by simp)]
      exact Nat.zero_le _

theorem routable_standard : Routable "/healthz" :=
  routable_plain (by decide) (by decide) (by decide) (by decide)

theorem textOr_routable (written : String) :
    Routable (textOr written "/healthz") ↔ written = "" ∨ Routable written := by
  unfold textOr
  split
  next empty => simp [String.isEmpty_iff.mp empty, routable_standard]
  next there =>
    have given : written ≠ "" := fun same => there (String.isEmpty_iff.mpr same)
    simp [given]

/-- A catalog that was read can be served just if what is written for the syncs fits into a pool,
and a route can be made for what is written as the path of the health check, if anything is. -/
theorem served_iff (text : String) (c : Catalog) (v : Disk.Volume)
    (accepted : Catalog.parse text = .ok c) :
    ∃ draft, CatalogDraft.shape.read.whole text = .ok draft ∧ c = draft.complete ∧
      ((∃ s, Service.start c v = .ok s) ∧ (∃ routes, Routes.ofHealthPath c.healthPath = .ok routes) ↔
        draft.maxSyncs ≤ Permits.most ∧ (draft.healthPath = "" ∨ Routable draft.healthPath)) := by
  obtain ⟨draft, read, _, rfl⟩ := (parse_iff text c).mp accepted
  refine ⟨draft, read, rfl, ?_⟩
  rw [start_iff, ofHealthPath_iff]
  exact and_congr (orDefault_fits _ 2 (by decide)) (textOr_routable _)

-- As many syncs as a pool has room for, and a path with a place in it.
def widest : String :=
  "\x7b\"max-concurrent-indexers\":2305843009213693951,\"health-check-uri\":\"/up/\x7bid\x7d\"\x7d"

theorem widest_served :
    ∃ c, Catalog.parse widest = .ok c ∧ (∃ s, Service.start c .empty = .ok s) ∧
      ∃ routes, Routes.ofHealthPath c.healthPath = .ok routes := by
  let written : CatalogDraft :=
    { maxSyncs := 2305843009213693951, healthPath := "/up/\x7bid\x7d" }
  have accepted : Catalog.parse widest = .ok written.complete := by decide +kernel
  have known : CatalogDraft.shape.read.whole widest = .ok written := by decide +kernel
  obtain ⟨draft, read, _, served⟩ := served_iff widest _ .empty accepted
  obtain rfl : draft = written := Except.ok.inj (read.symm.trans known)
  have routable : Routable "/up/\x7bid\x7d" := (ofHealthPath_iff _).mp ⟨_, rfl⟩
  exact ⟨_, accepted, served.mpr ⟨by decide, .inr routable⟩⟩

/-- One sync more than that is refused by the pool, and these paths by the routes. All of them are
read without a fault. -/
theorem accepted_unserved :
    (∃ c, Catalog.parse "\x7b\"max-concurrent-indexers\":2305843009213693952\x7d" = .ok c ∧
      Service.start c .empty = .error { wanted := 2305843009213693952 }) ∧
    (∃ c, Catalog.parse "\x7b\"health-check-uri\":\"healthz\"\x7d" = .ok c ∧
      Routes.ofHealthPath c.healthPath = .error .notRooted) ∧
    (∃ c, Catalog.parse "\x7b\"health-check-uri\":\"/\x7b\"\x7d" = .ok c ∧
      Routes.ofHealthPath c.healthPath = .error (.invalid "/\x7b" .badName)) ∧
    ∃ c, Catalog.parse "\x7b\"health-check-uri\":\"/api/v1/repos\"\x7d" = .ok c ∧
      Routes.ofHealthPath c.healthPath = .error (.taken reposPath) := by
  refine ⟨⟨{ maxSyncs := 2305843009213693952 }, by decide +kernel, rfl⟩,
    ⟨{ healthPath := "healthz" }, by decide +kernel, by decide +kernel⟩,
    ⟨{ healthPath := "/\x7b" }, by decide +kernel, by decide +kernel⟩,
    ⟨{ healthPath := "/api/v1/repos" }, by decide +kernel, by decide +kernel⟩⟩

end FleetSearch.Web
