set_option autoImplicit false

/-!
Histories: commits with their parents, and which of them lie behind which.
-/

namespace FleetSearch.Git

abbrev Id := String

abbrev History := List (Id × List Id)

namespace History

def without (known : History) (id : Id) : History :=
  known.filter fun c => c.1 != id

theorem length_without_lt {known : History} {id : Id} {parents : List Id}
    (h : known.lookup id = some parents) : (known.without id).length < known.length := by
  unfold without
  induction known with
  | nil => simp at h
  | cons c rest ih =>
    obtain ⟨key, value⟩ := c
    by_cases same : key = id
    · simp only [same, bne_self_eq_false, Bool.false_eq_true, not_false_eq_true,
        List.filter_cons_of_neg, List.length_cons]
      exact Nat.lt_succ_of_le (List.length_filter_le _ _)
    · have other : (id == key) = false := by simpa using fun e => same e.symm
      rw [List.lookup_cons, other] at h
      have keep : (key != id) = true := by simpa using same
      simp only [keep, List.filter_cons_of_pos, List.length_cons]
      exact Nat.succ_lt_succ (ih h)

-- The known commits that lie behind those of `todo`, these included. A commit is taken out of
-- `known` when it is reached.
def reach (known : History) (todo : List Id) : List Id :=
  match todo with
  | [] => []
  | id :: rest =>
    match _h : known.lookup id with
    | none => reach known rest
    | some parents => id :: reach (known.without id) (parents ++ rest)
termination_by (known.length, todo.length)
decreasing_by
  · exact Prod.Lex.right _ (Nat.lt_succ_self _)
  · exact Prod.Lex.left _ _ (length_without_lt _h)

def isBehind (g : History) (a b : Id) : Bool :=
  (g.reach [b]).contains a

inductive Course where
  | upToDate
  | forward
  | diverged
deriving DecidableEq, Inhabited

def course (g : History) (head tip : Id) : Course :=
  if g.isBehind tip head then .upToDate
  else if g.isBehind head tip then .forward
  else .diverged

end History

end FleetSearch.Git
