import FleetSearch.Proofs.Web.Updating

set_option autoImplicit false

/-!
What requests do to a service: nothing at all, one search through checkouts that are there, or syncs
of such checkouts.
-/

namespace FleetSearch.Web

open FleetSearch.Search

theorem choose_inside (selector : Selector) (names : List String) (i : Nat)
    (member : i ∈ selector.choose names) : i < names.length := by
  obtain ⟨entry, chosen, rfl⟩ := List.mem_map.mp member
  have placed := List.mem_zipIdx_iff_getElem?.mp (List.mem_filter.mp chosen).1
  exact (List.getElem?_eq_some_iff.mp placed).1

theorem select_inside {s : Service} {repos : String} {scope : List Nat}
    (chosen : s.select repos = .ok scope) : ∀ i ∈ scope, i < s.fleet.checkouts.length := by
  intro i member
  rw [Service.select] at chosen
  cases read : Selector.read repos with
  | error refusal => simp [read, Except.map] at chosen
  | ok selector =>
    rw [read] at chosen
    cases chosen
    have inside := choose_inside selector _ i member
    rwa [Fleet.names, List.length_map] at inside

inductive Effect (s : Service) : Service -> Prop
  | none : Effect s s
  | search (scope : List Nat) (inside : ∀ i ∈ scope, i < s.fleet.checkouts.length)
      (request : Search.Request) : Effect s (s.search scope request).2
  | syncs (targets : List Nat) (inside : ∀ i ∈ targets, i < s.fleet.checkouts.length) :
      Effect s (targets.foldl (fun s i => s.requestSync i .update) s)

theorem searchAnswer_effect (s : Service) (query : String) :
    Effect s (searchAnswer s query).2 := by
  unfold searchAnswer
  dsimp only
  split
  next => exact .none
  next scope chosen =>
    have searched := Effect.search scope (select_inside chosen)
      ((Params.ofPairs (Form.pairs query)).request s.catalog)
    split <;> exact searched

theorem updateAnswer_effect (s : Service) (r : Request) : Effect s (updateAnswer s r).2 := by
  unfold updateAnswer
  split
  next => exact .none
  next =>
    split
    next => exact .none
    next selector _ =>
      rw [updateTargets_eq]
      cases unknown? s.fleet selector with
      | some name => exact .none
      | none =>
        dsimp only
        cases (targets s.fleet selector).find? fun i => !(s.checkout i).repo.acceptsPush with
        | some i => exact .none
        | none => exact .syncs _ (targets_inside s.fleet selector)

theorem answer_effect (routes : Routes) (s : Service) (r : Request) :
    Effect s (answer routes s r).2 := by
  unfold answer
  cases routes.endpoint? r.path with
  | none => exact .none
  | some e =>
    dsimp only
    cases handlerOf e r.method with
    | none => exact .none
    | some h =>
      change Effect s (handle h s r).2
      cases h with
      | search => exact searchAnswer_effect s r.query
      | update => exact updateAnswer_effect s r
      | _ => exact .none

end FleetSearch.Web
