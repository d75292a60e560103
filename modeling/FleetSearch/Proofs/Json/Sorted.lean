import FleetSearch.Json.Value
import FleetSearch.Proofs.Text.Order

set_option autoImplicit false

namespace FleetSearch.Json

variable {key : String} {v : Value} {members acc : List (String × Value)}

def InOrder (names : List String) : Prop :=
  names.Pairwise (· < ·)

instance (names : List String) : Decidable (InOrder names) :=
  inferInstanceAs (Decidable (names.Pairwise (· < ·)))

theorem InOrder.unique {names others : List String} (sorted : InOrder names)
    (ordered : InOrder others) (perm : names.Perm others) : names = others :=
  perm.eq_of_pairwise (fun _ _ _ _ less more => absurd more (String.lt_asymm less)) sorted ordered

theorem insertMember_perm (absent : key ∉ acc.map Prod.fst) :
    (insertMember key v acc).Perm ((key, v) :: acc) := by
  induction acc with
  | nil => exact .refl _
  | cons m rest ih =>
    rw [List.map_cons, List.mem_cons, not_or] at absent
    rw [insertMember]
    split
    next => exact .refl _
    next =>
      rw [if_neg absent.1]
      exact ((ih absent.2).cons _).trans (.swap ..)

theorem insertMember_inOrder (absent : key ∉ acc.map Prod.fst)
    (sorted : InOrder (acc.map Prod.fst)) : InOrder ((insertMember key v acc).map Prod.fst) := by
  induction acc with
  | nil => exact List.pairwise_singleton _ _
  | cons m rest ih =>
    obtain ⟨least, later⟩ := List.pairwise_cons.mp sorted
    rw [List.map_cons, List.mem_cons, not_or] at absent
    rw [insertMember]
    split
    next less =>
      refine List.pairwise_cons.mpr ⟨fun name member => ?_, sorted⟩
      rcases List.mem_cons.mp member with rfl | after
      · exact less
      · exact String.lt_trans less (least name after)
    next more =>
      rw [if_neg absent.1]
      refine List.pairwise_cons.mpr ⟨fun name member => ?_, ih absent.2 later⟩
      have among := ((insertMember_perm (v := v) absent.2).map Prod.fst).mem_iff.mp member
      rcases List.mem_cons.mp among with rfl | after
      · exact Text.lt_of_not_lt more absent.1
      · exact least name after

theorem sortedMembers_spec (distinct : (members.map Prod.fst ++ acc.map Prod.fst).Nodup)
    (sorted : InOrder (acc.map Prod.fst)) :
    (sortedMembers members acc).Perm (members.map (fun m => (m.1, m.2.sorted)) ++ acc) ∧
      InOrder ((sortedMembers members acc).map Prod.fst) := by
  induction members generalizing acc with
  | nil => exact ⟨.refl _, sorted⟩
  | cons m rest ih =>
    obtain ⟨name, v⟩ := m
    obtain ⟨fresh, others⟩ := List.nodup_cons.mp distinct
    have absent : name ∉ acc.map Prod.fst := fun member => fresh (List.mem_append_right _ member)
    have placed := insertMember_perm (v := v.sorted) absent
    have names := (placed.map Prod.fst).append_left (rest.map Prod.fst)
    have still : (rest.map Prod.fst ++ (insertMember name v.sorted acc).map Prod.fst).Nodup := by
      refine (names.trans List.perm_middle).nodup_iff.mpr ?_
      exact List.nodup_cons.mpr ⟨fresh, others⟩
    obtain ⟨perm, ordered⟩ := ih still (insertMember_inOrder absent sorted)
    rw [sortedMembers]
    refine ⟨perm.trans ?_, ordered⟩
    exact (placed.append_left _).trans List.perm_middle

theorem sorted_object (distinct : (members.map Prod.fst).Nodup) :
    ∃ placed, (Value.object members).sorted = .object placed ∧
      placed.Perm (members.map fun m => (m.1, m.2.sorted)) ∧ InOrder (placed.map Prod.fst) := by
  have spec : (sortedMembers members []).Perm (members.map (fun m => (m.1, m.2.sorted)) ++ []) ∧
      InOrder ((sortedMembers members []).map Prod.fst) :=
    sortedMembers_spec (by simpa using distinct) .nil
  rw [List.append_nil] at spec
  exact ⟨_, rfl, spec⟩

end FleetSearch.Json
