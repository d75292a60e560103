import FleetSearch.Proofs.Json.Sorted
import FleetSearch.Proofs.Json.Written
import FleetSearch.Web.Api

set_option autoImplicit false

namespace FleetSearch

open FleetSearch.Json FleetSearch.Search

variable {s : Service}

theorem Service.namesOf_choose (s : Service) (chosen : Selector) :
    s.namesOf (chosen.choose s.fleet.names) = s.fleet.names.filter chosen.accepts := by
  have named : ∀ e ∈ s.fleet.names.zipIdx, (s.checkout e.2).name = e.1 := by
    intro e member
    have there : s.fleet.names[e.2]? = some e.1 := List.mem_zipIdx_iff_getElem?.mp member
    rw [Fleet.names, List.getElem?_map] at there
    obtain ⟨c, own, same⟩ := Option.map_eq_some_iff.mp there
    rw [Service.checkout, Fleet.checkout?, own]
    exact same
  have kept : ∀ e ∈ s.fleet.names.zipIdx.filter (fun e => chosen.accepts e.1),
      (s.checkout e.2).name = e.1 := fun e member => named e (List.mem_filter.mp member).1
  calc s.namesOf (chosen.choose s.fleet.names)
      = (s.fleet.names.zipIdx.filter fun e => chosen.accepts e.1).map
          (fun e => (s.checkout e.2).name) := by
        rw [Service.namesOf, Selector.choose, List.map_map]
        rfl
    _ = (s.fleet.names.zipIdx.filter fun e => chosen.accepts e.1).map Prod.fst :=
        List.map_congr_left kept
    _ = (s.fleet.names.zipIdx.map Prod.fst).filter chosen.accepts := by
        rw [List.filter_map]
        rfl
    _ = s.fleet.names.filter chosen.accepts := by rw [List.zipIdx_map_fst]

namespace Web

theorem answer_repos (routes : Routes) (s : Service) (query contentType body : String) :
    answer routes s { method := "GET", path := reposPath, query, contentType, body } =
      (reposAnswer s, s) := by
  have other : reposPath ≠ searchPath := by decide
  have repos : routes.endpoint? reposPath = some { get := some .repos } := by
    rw [Routes.endpoint?, if_neg other, if_pos rfl]
  rw [answer, repos]
  rfl

/-- The listing is one object with just one member for each repository, its settings and its status
under its name. The members come in the order of the configuration just if that is the order of the
names; searches and their pages go in the order of the configuration anyway. -/
theorem repos_listed (routes : Routes) (s : Service) (query contentType body : String)
    (distinct : s.fleet.names.Nodup) :
    ∃ response members,
      answer routes s { method := "GET", path := reposPath, query, contentType, body } =
        (response, s) ∧
      response.status = 200 ∧ response.text = (Value.object members).render ∧
      members.Perm (s.fleet.checkouts.map fun c => (c.name, (checkoutValue s.epoch c).sorted)) ∧
      Reader.keys.whole response.text = .ok (members.map Prod.fst) ∧
      (members.map Prod.fst = s.fleet.names ↔ InOrder s.fleet.names) ∧
      ∀ selector chosen, Selector.read selector = .ok chosen ->
        ∃ scope, s.select selector = .ok scope ∧
          s.namesOf scope = s.fleet.names.filter chosen.accepts := by
  have names : (s.fleet.checkouts.map fun c => (c.name, checkoutValue s.epoch c)).map Prod.fst =
      s.fleet.names := List.map_map
  obtain ⟨members, object, perm, sorted⟩ := sorted_object (names.symm ▸ distinct)
  rw [List.map_map] at perm
  have text : (reposAnswer s).text = (Value.object members).render := by
    rw [reposAnswer, object]
    rfl
  have same : (members.map Prod.fst).Perm s.fleet.names := by
    have firsts := perm.map Prod.fst
    rwa [List.map_map] at firsts
  refine ⟨reposAnswer s, members, answer_repos routes s query contentType body, rfl, text, perm,
    ?_, ?_, ?_⟩
  · rw [text, Reader.keys_render]
  · constructor
    · intro configured
      rwa [configured] at sorted
    · exact fun ordered => sorted.unique ordered same
  · intro selector chosen read
    refine ⟨_, by rw [Service.select, read]; rfl, s.namesOf_choose chosen⟩

def listedFrom (names : List String) : Except TooManyPermits Service :=
  Service.start { repos := names.map Repo.named } .empty

theorem alphabetical_listed :
    ∃ s, listedFrom ["alpha", "zeta"] = .ok s ∧ s.fleet.names = ["alpha", "zeta"] ∧
      ∀ routes : Routes, Reader.keys.whole (answer routes s { path := reposPath }).1.text =
        .ok ["alpha", "zeta"] := by
  obtain ⟨s, started, names⟩ : ∃ s, listedFrom ["alpha", "zeta"] = .ok s ∧
    s.fleet.names = ["alpha", "zeta"] := ⟨_, rfl, by decide⟩
  refine ⟨s, started, names, fun routes => ?_⟩
  obtain ⟨response, members, answered, _, _, _, read, configured, _⟩ :=
    repos_listed routes s "" "" "" (names ▸ by decide)
  rw [names] at configured
  rw [answered, read, configured.mpr (by decide)]

/-- Searches go through `zeta` first, and the listing begins with `alpha`. -/
theorem configured_misplaced :
    ∃ s, listedFrom ["zeta", "alpha"] = .ok s ∧ s.fleet.names = ["zeta", "alpha"] ∧
      (∃ scope, s.select "" = .ok scope ∧ s.namesOf scope = ["zeta", "alpha"]) ∧
      ∀ routes : Routes, Reader.keys.whole (answer routes s { path := reposPath }).1.text =
        .ok ["alpha", "zeta"] := by
  obtain ⟨s, started, names, scope, read⟩ : ∃ s, listedFrom ["zeta", "alpha"] = .ok s ∧
      s.fleet.names = ["zeta", "alpha"] ∧
      (∃ scope, s.select "" = .ok scope ∧ s.namesOf scope = ["zeta", "alpha"]) ∧
      Reader.keys.whole (reposAnswer s).text = .ok ["alpha", "zeta"] := by
    refine ⟨_, rfl, rfl, ⟨[0, 1], rfl, rfl⟩, ?_⟩
    exact Reader.keys_render _
  refine ⟨s, started, names, scope, fun routes => ?_⟩
  rw [show answer routes s { path := reposPath } = (reposAnswer s, s) from
    answer_repos routes s "" "" "", read]

end Web

end FleetSearch
