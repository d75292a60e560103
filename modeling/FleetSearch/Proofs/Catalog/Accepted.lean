import FleetSearch.Catalog.Load
import Mathlib.Data.List.Nodup

set_option autoImplicit false

namespace FleetSearch

theorem checkNames_iff (seen : List String) (repos : List Repo) :
    checkNames seen repos = .ok () ↔
      (∀ r ∈ repos, r.name ≠ "" ∧ r.name ∉ seen) ∧ (repos.map Repo.name).Nodup := by
  induction repos generalizing seen with
  | nil => simp [checkNames]
  | cons r rest ih =>
    rw [checkNames]
    by_cases nameless : r.name.isEmpty = true
    next => simp [String.isEmpty_iff.mp nameless]
    next =>
      rw [if_neg nameless]
      by_cases old : seen.contains r.name = true
      next => simp [List.contains_iff_mem.mp old]
      next =>
        rw [if_neg old, ih, List.map_cons, List.nodup_cons]
        have named : r.name ≠ "" := fun same => nameless (String.isEmpty_iff.mpr same)
        have fresh : r.name ∉ seen := fun member => old (List.contains_iff_mem.mpr member)
        constructor
        · rintro ⟨later, once⟩
          refine ⟨fun other member => ?_, ?_, once⟩
          · rcases List.mem_cons.mp member with rfl | among
            · exact ⟨named, fresh⟩
            · obtain ⟨there, apart⟩ := later other among
              exact ⟨there, fun member => apart (List.mem_cons_of_mem _ member)⟩
          · intro repeated
            obtain ⟨other, among, same⟩ := List.mem_map.mp repeated
            exact (later other among).2 (same ▸ List.mem_cons_self)
        · rintro ⟨each, apart, once⟩
          refine ⟨fun other among => ⟨(each other (List.mem_cons_of_mem _ among)).1, ?_⟩, once⟩
          intro member
          rcases List.mem_cons.mp member with same | old
          · exact apart (same ▸ List.mem_map_of_mem among)
          · exact (each other (List.mem_cons_of_mem _ among)).2 old

theorem checkNames_ok_iff (repos : List Repo) :
    checkNames [] repos = .ok () ↔
      "" ∉ repos.map Repo.name ∧ (repos.map Repo.name).Nodup := by
  simp [checkNames_iff]

/-- What is wrong with a repository that comes behind others of these names. -/
inductive Offends (names : List String) (r : Repo) : CatalogFault -> Prop
  | nameless (unnamed : r.name = "") : Offends names r .nameless
  | duplicate (named : r.name ≠ "") (old : r.name ∈ names) : Offends names r (.duplicate r.name)

theorem offends_reverse {names : List String} {r : Repo} {fault : CatalogFault} :
    Offends names.reverse r fault ↔ Offends names r fault := by
  constructor
  · rintro (unnamed | ⟨named, old⟩)
    · exact .nameless unnamed
    · exact .duplicate named (List.mem_reverse.mp old)
  · rintro (unnamed | ⟨named, old⟩)
    · exact .nameless unnamed
    · exact .duplicate named (List.mem_reverse.mpr old)

theorem checkNames_cons (seen : List String) (r : Repo) (rest : List Repo) :
    (∃ fault, Offends seen r fault ∧ checkNames seen (r :: rest) = .error fault) ∨
      (∀ fault, ¬ Offends seen r fault) ∧
        checkNames seen (r :: rest) = checkNames (r.name :: seen) rest := by
  rw [checkNames]
  by_cases unnamed : r.name = ""
  next => exact .inl ⟨_, .nameless unnamed, if_pos (by simpa using unnamed)⟩
  next =>
    rw [if_neg (by simpa using unnamed)]
    by_cases old : r.name ∈ seen
    next => exact .inl ⟨_, .duplicate unnamed old, if_pos (by simpa using old)⟩
    next =>
      refine .inr ⟨?_, if_neg (by simpa using old)⟩
      rintro fault (same | ⟨_, there⟩)
      · exact unnamed same
      · exact old there

theorem Offends.unique {names : List String} {r : Repo} {one other : CatalogFault}
    (first : Offends names r one) (second : Offends names r other) : one = other := by
  cases first <;> cases second <;> first | rfl | contradiction

theorem checkNames_error_iff (seen : List String) (repos : List Repo) (fault : CatalogFault) :
    checkNames seen repos = .error fault ↔
      ∃ before r after, repos = before ++ r :: after ∧ checkNames seen before = .ok () ∧
        Offends ((before.map Repo.name).reverse ++ seen) r fault := by
  induction repos generalizing seen with
  | nil => simp [checkNames]
  | cons q rest ih =>
    rcases checkNames_cons seen q rest with ⟨own, offends, stops⟩ | ⟨fine, goesOn⟩
    · rw [stops]
      constructor
      · rintro ⟨⟩
        exact ⟨[], q, rest, rfl, rfl, offends⟩
      · rintro ⟨before, r, after, cut, passed, other⟩
        cases before with
        | nil =>
          obtain ⟨rfl, rfl⟩ := List.cons.inj cut
          rw [offends.unique other]
        | cons p before =>
          obtain ⟨rfl, rfl⟩ := List.cons.inj cut
          rcases checkNames_cons seen q before with ⟨_, _, stopped⟩ | ⟨fine, _⟩
          · cases stopped.symm.trans passed
          · exact absurd offends (fine own)
    · rw [goesOn, ih]
      constructor
      · rintro ⟨before, r, after, rfl, passed, offends⟩
        refine ⟨q :: before, r, after, rfl, ?_, by simpa using offends⟩
        rcases checkNames_cons seen q before with ⟨other, wrong, _⟩ | ⟨_, same⟩
        · exact absurd wrong (fine other)
        · exact same.trans passed
      · rintro ⟨before, r, after, cut, passed, offends⟩
        cases before with
        | nil =>
          obtain ⟨rfl, rfl⟩ := List.cons.inj cut
          exact absurd offends (fine fault)
        | cons p before =>
          obtain ⟨rfl, rfl⟩ := List.cons.inj cut
          refine ⟨before, r, after, rfl, ?_, by simpa using offends⟩
          rcases checkNames_cons seen q before with ⟨other, wrong, _⟩ | ⟨_, same⟩
          · exact absurd wrong (fine other)
          · exact same.symm.trans passed

theorem parse_iff (text : String) (c : Catalog) :
    Catalog.parse text = .ok c ↔
      ∃ draft, CatalogDraft.shape.read.whole text = .ok draft ∧
        checkNames [] draft.repos = .ok () ∧ c = draft.complete := by
  rw [Catalog.parse]
  cases CatalogDraft.shape.read.whole text with
  | error fault => simp
  | ok draft =>
    cases checked : checkNames [] draft.repos with
    | error fault => simp [checked, bind, Except.bind]
    | ok _ => simp [checked, bind, Except.bind, pure, Except.pure, eq_comm]

theorem complete_names (d : CatalogDraft) :
    d.complete.repos.map Repo.name = d.repos.map Repo.name := by
  rw [CatalogDraft.complete, List.map_map]
  rfl

namespace Catalog

def Accepted (c : Catalog) : Prop :=
  (∃ text, Catalog.parse text = .ok c) ∨ ∃ v path, Catalog.ofFile v path = .ok c

theorem ofFile_ok {v : Disk.Volume} {path : String} {c : Catalog}
    (loaded : Catalog.ofFile v path = .ok c) :
    ∃ text read, Catalog.parse text = .ok read ∧ c.repos = read.repos := by
  rw [ofFile] at loaded
  split at loaded
  next => cases loaded
  next text _ =>
    split at loaded
    next => cases loaded
    next read parsed =>
      refine ⟨text, read, parsed, ?_⟩
      split at loaded <;> cases loaded <;> rfl

theorem Accepted.names {c : Catalog} (accepted : c.Accepted) :
    (∀ r ∈ c.repos, r.name ≠ "") ∧ (c.repos.map Repo.name).Nodup := by
  obtain ⟨text, read, parsed, same⟩ :
      ∃ text read, Catalog.parse text = .ok read ∧ c.repos = read.repos := by
    rcases accepted with ⟨text, parsed⟩ | ⟨v, path, loaded⟩
    · exact ⟨text, c, parsed, rfl⟩
    · exact ofFile_ok loaded
  obtain ⟨draft, _, checked, rfl⟩ := (parse_iff text read).mp parsed
  rw [checkNames_ok_iff, ← complete_names, ← same] at checked
  obtain ⟨named, once⟩ := checked
  exact ⟨fun r member unnamed => named (unnamed ▸ List.mem_map_of_mem member), once⟩

end Catalog

end FleetSearch
