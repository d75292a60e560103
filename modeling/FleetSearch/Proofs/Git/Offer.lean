import FleetSearch.Git.Clone
import FleetSearch.Proofs.Git.Leaves

set_option autoImplicit false

namespace FleetSearch.Git

open FleetSearch.Disk

theorem mapM_mem {A B E : Type} {f : A -> Except E B} {xs : List A} {ys : List B}
    (ran : xs.mapM f = .ok ys) {y : B} (member : y ∈ ys) : ∃ x ∈ xs, f x = .ok y := by
  induction xs generalizing ys with
  | nil =>
    cases ran
    cases member
  | cons x rest ih =>
    rw [List.mapM_cons] at ran
    obtain ⟨first, one, ran⟩ := bind_ok ran
    obtain ⟨more, others, ran⟩ := bind_ok ran
    cases ran
    rcases List.mem_cons.mp member with rfl | later
    · exact ⟨x, List.mem_cons_self, one⟩
    · obtain ⟨other, among, same⟩ := ih others later
      exact ⟨other, List.mem_cons_of_mem _ among, same⟩

theorem mem_of_mapM {A B E : Type} {f : A -> Except E B} {xs : List A} {ys : List B}
    (ran : xs.mapM f = .ok ys) {x : A} (member : x ∈ xs) : ∃ y ∈ ys, f x = .ok y := by
  obtain ⟨firsts, each⟩ := mapM_ok ran
  rw [← firsts] at member
  obtain ⟨p, among, rfl⟩ := List.mem_map.mp member
  exact ⟨p.2, (List.of_mem_zip among).2, each p among⟩

theorem lookup_of_only {A : Type} {entries : List (String × A)} {name : String} {value : A}
    (member : (name, value) ∈ entries)
    (only : ∀ e ∈ entries, e.1 = name -> e.2 = value) : entries.lookup name = some value := by
  induction entries with
  | nil => cases member
  | cons entry rest ih =>
    obtain ⟨key, first⟩ := entry
    rw [lookup_cons_if]
    split
    next same => exact congrArg some (only (key, first) List.mem_cons_self same.symm)
    next apart =>
      have later : (name, value) ∈ rest :=
        (List.mem_cons.mp member).resolve_left fun same => apart (congrArg Prod.fst same)
      exact ih later fun e among => only e (List.mem_cons_of_mem _ among)

theorem mem_of_lookup {A : Type} {entries : List (String × A)} {name : String} {value : A}
    (found : entries.lookup name = some value) : name ∈ entries.map Prod.fst := by
  obtain ⟨before, after, rfl, _⟩ := List.lookup_eq_some_iff.mp found
  simp

namespace Repository

variable {origin : Repository} {offer : Offer}

theorem mem_insertName (name other : String) (names : List String) :
    other ∈ insertName name names ↔ other = name ∨ other ∈ names := by
  induction names with
  | nil => rw [insertName, List.mem_singleton, List.mem_nil_iff, or_false]
  | cons first rest ih =>
    unfold insertName
    split
    next => rw [List.mem_cons]
    next =>
      split
      next same => simp [same]
      next => rw [List.mem_cons, ih, List.mem_cons, or_left_comm]

theorem mem_foldr_insertName {names : List String} {name : String} (member : name ∈ names) :
    name ∈ names.foldr insertName [] := by
  induction names with
  | nil => cases member
  | cons first rest ih =>
    rw [List.foldr_cons, mem_insertName]
    exact (List.mem_cons.mp member).imp id ih

theorem mem_names {name last : String} {id : Id} (found : origin.target name = .found last id)
    (apart : name ≠ headName) : name ∈ origin.names := by
  unfold target follow at found
  split at found
  next => cases found
  next =>
    apply mem_foldr_insertName
    rw [List.mem_append]
    cases loose : origin.loose.lookup name with
    | some ref =>
      refine .inl (List.mem_filter.mpr ⟨mem_of_lookup loose, ?_⟩)
      simpa using apart
    | none =>
      refine .inr ?_
      rw [ref?, loose] at found
      cases packed : origin.packed with
      | none => simp [packed] at found
      | some refs =>
        cases there : refs.lookup name with
        | none => simp [packed, there] at found
        | some id => simpa using mem_of_lookup there

def entry (origin : Repository) (name : String) : Except Fault (String × Id) :=
  match origin.target name with
  | .found _ id =>
    if tagDir.toList.isPrefixOf name.toList && !origin.has id then throw (.missingObject id)
    else pure (name, id)
  | .missing last => throw (.unborn last)
  | .broken last => throw (.brokenRef last)

theorem entry_ok {name : String} {e : String × Id} (made : origin.entry name = .ok e) :
    e.1 = name ∧ ∃ last, origin.target name = .found last e.2 := by
  unfold entry at made
  split at made
  next last id found =>
    split at made
    next => cases made
    next =>
      cases made
      exact ⟨rfl, last, found⟩
  next => cases made
  next => cases made

theorem offer_ok (offered : origin.offer = .ok offer) :
    (∀ head, offer.head = some head -> ∃ name, origin.head = .found name head) ∧
      origin.names.mapM origin.entry = .ok offer.refs := by
  unfold Repository.offer at offered
  simp only at offered
  split at offered
  next name id there =>
    obtain ⟨_, first, offered⟩ := bind_ok offered
    obtain ⟨refs, entries, offered⟩ := bind_ok offered
    cases offered
    cases first
    refine ⟨fun head same => ?_, entries⟩
    cases same
    exact ⟨name, there⟩
  next =>
    obtain ⟨_, first, offered⟩ := bind_ok offered
    obtain ⟨refs, entries, offered⟩ := bind_ok offered
    cases offered
    cases first
    exact ⟨nofun, entries⟩
  next => cases offered

theorem target_of_offer (offered : origin.offer = .ok offer) {e : String × Id}
    (member : e ∈ offer.refs) : ∃ last, origin.target e.1 = .found last e.2 := by
  obtain ⟨name, _, made⟩ := mapM_mem (offer_ok offered).2 member
  obtain ⟨rfl, found⟩ := entry_ok made
  exact found

theorem offer_of_target (offered : origin.offer = .ok offer) {name last : String} {id : Id}
    (found : origin.target name = .found last id) (apart : name ≠ headName) :
    (name, id) ∈ offer.refs := by
  obtain ⟨⟨own, tip⟩, member, made⟩ := mem_of_mapM (offer_ok offered).2 (mem_names found apart)
  obtain ⟨rfl, _, same⟩ := entry_ok made
  cases found.symm.trans same
  exact member

theorem standard_source : (FetchRule.read standardRule).source = "refs/heads/*".toList := by
  decide +kernel

theorem standard_takes {name : String} (branch : isBranch name = true) :
    (FetchRule.read standardRule).matches? name = true ∧
      tagDir.toList.isPrefixOf name.toList = false := by
  obtain ⟨rest, letters⟩ : ∃ rest, name.toList = "refs/heads/".toList ++ rest := by
    obtain ⟨rest, same⟩ := List.isPrefixOf_iff_prefix.mp branch
    exact ⟨rest, same.symm⟩
  constructor
  · rw [FetchRule.matches?, standard_source, letters, FetchRule.starOf?]
    simp
  · rw [letters]
    simp [tagDir, List.isPrefixOf]

theorem incoming_followed {r : Repository} {name last : String} {own tip : Id}
    (offered : origin.offer = .ok offer) (stands : r.head = .found name own)
    (branch : isBranch name = true) (follows : r.followed? name = some name)
    (found : origin.target name = .found last tip) :
    r.incoming? [FetchRule.read standardRule] offer = some tip := by
  obtain ⟨fits, noTag⟩ := standard_takes branch
  have apart : name ≠ headName := by
    rintro rfl
    simp [isBranch, headName, branchDir] at branch
  have member : (name, tip) ∈ offer.taken (FetchRule.read standardRule) := by
    refine List.mem_filter.mpr ⟨offer_of_target offered found apart, ?_⟩
    simp [fits, noTag]
  have lookup : (offer.taken (FetchRule.read standardRule)).lookup name = some tip := by
    apply lookup_of_only member
    rintro ⟨other, id⟩ among rfl
    obtain ⟨_, same⟩ := target_of_offer offered (List.mem_of_mem_filter among)
    cases found.symm.trans same
    rfl
  have star : (FetchRule.read standardRule).hasStar = true := by
    decide +kernel
  have first : [FetchRule.read standardRule].find? (fun rule => !(offer.taken rule).isEmpty) =
      some (FetchRule.read standardRule) := by
    rw [List.find?_cons_of_pos]
    simpa using List.ne_nil_of_mem member
  rw [incoming?, if_neg nofun, first, Option.bind_some]
  simp only [stands, star, if_true, follows, Option.bind_some, lookup, Option.some_or]

end Repository

end FleetSearch.Git
