import FleetSearch.Proofs.Git.Branch
import Mathlib.Data.List.Nodup

set_option autoImplicit false

/-!
Which commits lie behind which. The search through a history finds every commit to which a chain of
parents leads, so what becomes of a branch depends on the graph of the commits and on nothing else.
-/

namespace FleetSearch.Git

open Relation

namespace History

variable {g : History} {first start id : Id} {parents todo : List Id}

theorem path_unknown (absent : g.lookup start = none) (path : ReflTransGen g.Parent start id) :
    id = start := by
  rcases path.cases_head with same | ⟨next, ⟨parents, known, _⟩, _⟩
  · exact same.symm
  · cases absent.symm.trans known

-- What follows the last visit of `first` is a path that leaves it out.
theorem path_without (known : g.lookup first = some parents)
    (path : ReflTransGen g.Parent start id) :
    ReflTransGen (g.without first).Parent start id ∨
      ∃ next ∈ parents, ReflTransGen (g.without first).Parent next id := by
  induction path using ReflTransGen.head_induction_on with
  | refl => exact .inl .refl
  | @head commit next step _ ih =>
    rcases ih with path | later
    · obtain ⟨own, there, parent⟩ := step
      by_cases visit : commit = first
      next =>
        subst visit
        obtain rfl : parents = own := Option.some.inj (known.symm.trans there)
        exact .inr ⟨next, parent, path⟩
      next =>
        have kept : (g.without first).lookup commit = some own := by
          rw [lookup_without, if_neg visit, there]
        exact .inl (.head ⟨own, kept, parent⟩ path)
    · exact .inr later

theorem mem_reach (known : g.lookup id ≠ none) (among : start ∈ todo)
    (path : ReflTransGen g.Parent start id) : id ∈ g.reach todo := by
  induction g, todo using reach.induct generalizing start with
  | case1 g => cases among
  | case2 g first rest absent ih =>
    rw [reach_unknown absent]
    rcases List.mem_cons.mp among with rfl | later
    · exact absurd (path_unknown absent path ▸ absent) known
    · exact ih known later path
  | case3 g first rest parents there ih =>
    rw [reach_known there]
    by_cases own : id = first
    next => exact own ▸ List.mem_cons_self
    next =>
      have kept : (g.without first).lookup id ≠ none := by rwa [lookup_without, if_neg own]
      apply List.mem_cons_of_mem
      rcases path_without there path with path | ⟨next, parent, path⟩
      · have later : start ∈ rest := by
          apply (List.mem_cons.mp among).resolve_left
          rintro rfl
          have gone : (g.without start).lookup start = none := by rw [lookup_without, if_pos rfl]
          exact own (path_unknown gone path)
        exact ih kept (List.mem_append_right _ later) path
      · exact ih kept (List.mem_append_left _ parent) path

theorem isBehind_iff (known : g.lookup id ≠ none) :
    g.isBehind id start = true ↔ ReflTransGen g.Parent start id := by
  constructor
  · exact behind_of_isBehind
  · intro path
    exact List.contains_iff_mem.mpr (mem_reach known List.mem_cons_self path)

end History

namespace Repository

variable {r s : Repository} {a b head tip : Id} {commit : Commit}

def Parent (r : Repository) (a b : Id) : Prop :=
  ∃ commit, r.object? a = some (.commit commit) ∧ b ∈ commit.parents

/-- `a` is `b` or one of its ancestors. -/
def Behind (r : Repository) (a b : Id) : Prop :=
  ReflTransGen r.Parent b a

def Addressed (r : Repository) : Prop :=
  ∀ o ∈ r.objects, ∀ other ∈ r.objects, o.1 = other.1 ->
    Object.unpack? o.2 = Object.unpack? other.2

theorem Addressed.of_objects (addressed : r.Addressed) (same : s.objects = r.objects) :
    s.Addressed := by
  rw [Addressed, same]
  exact addressed

theorem addressed_of_nodup (once : (r.objects.map Prod.fst).Nodup) : r.Addressed := by
  intro o member other further same
  rw [List.inj_on_of_nodup_map once member further same]

theorem behind_iff (there : r.object? b = some (.commit commit)) :
    r.Behind a b ↔ a = b ∨ ∃ parent ∈ commit.parents, r.Behind a parent := by
  constructor
  · intro behind
    rcases ReflTransGen.cases_head behind with same | ⟨next, ⟨own, stored, parent⟩, later⟩
    · exact .inl same.symm
    · cases there.symm.trans stored
      exact .inr ⟨next, parent, later⟩
  · rintro (rfl | ⟨parent, among, later⟩)
    · exact .refl
    · exact .head ⟨commit, there, among⟩ later

theorem Within.behind (within : r.Within s) (behind : r.Behind a b) : s.Behind a b := by
  refine ReflTransGen.mono ?_ _ _ behind
  rintro c d ⟨commit, there, parent⟩
  exact ⟨commit, within.object? there, parent⟩

theorem object_of_history (addressed : r.Addressed) {parents : List Id}
    (known : r.history.lookup a = some parents) :
    ∃ commit, r.object? a = some (.commit commit) ∧ commit.parents = parents := by
  obtain ⟨before, after, split, _⟩ := List.lookup_eq_some_iff.mp known
  have member : (a, parents) ∈ r.history := split ▸ by simp
  obtain ⟨⟨key, packed⟩, stored, made⟩ := List.mem_filterMap.mp member
  dsimp only at made
  split at made
  next commit unpacked =>
    cases made
    refine ⟨commit, ?_, rfl⟩
    cases found : r.objects.lookup a with
    | none => simpa using List.lookup_eq_none_iff.mp found _ stored
    | some bytes =>
      obtain ⟨front, back, whole, _⟩ := List.lookup_eq_some_iff.mp found
      have first : (a, bytes) ∈ r.objects := whole ▸ by simp
      rw [object?, found, Option.bind_some, addressed _ first _ stored rfl, unpacked]
  next => cases made

theorem parent_of_history (addressed : r.Addressed) : r.history.Parent = r.Parent := by
  ext a b
  constructor
  · rintro ⟨parents, known, parent⟩
    obtain ⟨commit, there, rfl⟩ := object_of_history addressed known
    exact ⟨commit, there, parent⟩
  · rintro ⟨commit, there, parent⟩
    exact ⟨commit.parents, history_lookup there, parent⟩

theorem isBehind_iff (addressed : r.Addressed) (there : r.object? a = some (.commit commit)) :
    r.history.isBehind a b = true ↔ r.Behind a b := by
  have known : r.history.lookup a ≠ none := by simp [history_lookup there]
  rw [History.isBehind_iff known, parent_of_history addressed, Behind]

section Course

variable (addressed : r.Addressed) (there : r.object? tip = some (.commit commit))

include addressed there

theorem course_behind (behind : r.Behind tip head) :
    r.history.course head tip = .upToDate := by
  rw [History.course, if_pos ((isBehind_iff addressed there).mpr behind)]

theorem course_ahead {own : Commit} (stored : r.object? head = some (.commit own))
    (ahead : r.Behind head tip) (apart : ¬ r.Behind tip head) :
    r.history.course head tip = .forward := by
  rw [History.course, if_neg (apart ∘ (isBehind_iff addressed there).mp),
    if_pos ((isBehind_iff addressed stored).mpr ahead)]

theorem course_apart {own : Commit} (stored : r.object? head = some (.commit own))
    (apart : ¬ r.Behind head tip) (other : ¬ r.Behind tip head) :
    r.history.course head tip = .diverged := by
  rw [History.course, if_neg (other ∘ (isBehind_iff addressed there).mp),
    if_neg (apart ∘ (isBehind_iff addressed stored).mp)]

end Course

end Repository

end FleetSearch.Git
