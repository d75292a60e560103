import FleetSearch.Git.Worktree

set_option autoImplicit false

namespace FleetSearch.Disk

open FleetSearch.Git

theorem lookup_cons_if {A : Type} (key : String) (value : A) (rest : List (String × A))
    (other : String) :
    ((key, value) :: rest).lookup other = if other = key then some value else rest.lookup other := by
  rw [List.lookup_cons]
  split
  next same => rw [if_pos (by simpa using same)]
  next apart => rw [if_neg (by simpa using apart)]

namespace Node

theorem lookup_putEntry (name : String) (node : Node) (entries : List (String × Node))
    (other : String) :
    (putEntry name node entries).lookup other =
      if other = name then some node else entries.lookup other := by
  induction entries with
  | nil => rw [putEntry, lookup_cons_if]
  | cons entry rest ih =>
    obtain ⟨key, old⟩ := entry
    unfold putEntry
    split
    next => rw [lookup_cons_if]
    next =>
      split
      next same =>
        subst same
        rw [lookup_cons_if, lookup_cons_if]
        split <;> rfl
      next apart =>
        rw [lookup_cons_if, ih, lookup_cons_if]
        by_cases own : other = key
        next => rw [if_pos own, if_pos own, if_neg (own ▸ Ne.symm apart)]
        next => rw [if_neg own, if_neg own]

theorem lookup_entries (tree : Node) (name : String) :
    tree.entries.lookup name = tree.child? name := by
  cases tree <;> rfl

theorem child?_put (tree : Node) (name : String) (rest : List String) (node : Node)
    (other : String) :
    (tree.put (name :: rest) node).child? other =
      if other = name then some (((tree.child? name).getD (.dir [])).put rest node)
      else tree.child? other := by
  rw [put, child?, lookup_putEntry, lookup_entries]

theorem child?_erase (tree : Node) (name other : String) :
    (tree.erase [name]).child? other = if other = name then none else tree.child? other := by
  cases tree with
  | dir entries =>
    rw [erase, child?, child?]
    induction entries with
    | nil => split <;> rfl
    | cons entry rest ih =>
      obtain ⟨key, node⟩ := entry
      by_cases gone : key = name
      next =>
        rw [List.filter_cons_of_neg (by simpa using gone), ih, lookup_cons_if]
        by_cases own : other = name
        next => rw [if_pos own, if_pos own]
        next => rw [if_neg own, if_neg own, if_neg (gone ▸ own)]
      next =>
        rw [List.filter_cons_of_pos (by simpa using gone), lookup_cons_if, lookup_cons_if, ih]
        by_cases own : other = key
        next => rw [if_pos own, if_pos own, if_neg (own ▸ gone)]
        next => rw [if_neg own, if_neg own]
  | _ => simp [erase, child?]

theorem get?_put (path rest : List String) (tree node : Node) :
    (tree.put (path ++ rest) node).get? path =
      some (((tree.get? path).getD (.dir [])).put rest node) := by
  induction path generalizing tree with
  | nil => rfl
  | cons name more ih =>
    rw [List.cons_append, get?, child?_put, if_pos rfl, Option.bind_some, ih, get?]
    cases tree.child? name with
    | some below => rfl
    | none => cases more <;> rfl

def file? (path : List String) (tree : Node) : Option Node :=
  (tree.get? path).filter isFile

theorem file?_cons (name : String) (rest : List String) (tree : Node) :
    tree.file? (name :: rest) = (tree.child? name).bind (file? rest) := by
  rw [file?, get?]
  cases tree.child? name <;> rfl

theorem file?_nil (tree : Node) : tree.file? [] = if isFile tree then some tree else none := by
  simp [file?, get?, Option.filter]

def IsPlain (node : Node) : Prop :=
  isFile node = true ∨ node = .dir []

theorem IsPlain.below {node : Node} (plain : node.IsPlain) (name : String) (rest : List String) :
    node.file? (name :: rest) = none := by
  rw [file?_cons]
  rcases plain with file | rfl
  · cases node with
    | dir entries => cases file
    | _ => rfl
  · rfl

theorem file?_put_self (path : List String) (tree node : Node) :
    (tree.put path node).file? path = if isFile node then some node else none := by
  induction path generalizing tree with
  | nil => rw [put, file?_nil]
  | cons name rest ih => rw [file?_cons, child?_put, if_pos rfl, Option.bind_some, ih]

theorem file?_put_apart {path place : List String} (above : ¬ path <+: place)
    (below : ¬ place <+: path) (tree node : Node) :
    (tree.put place node).file? path = tree.file? path := by
  induction place generalizing path tree with
  | nil => exact absurd List.nil_prefix below
  | cons name rest ih =>
    cases path with
    | nil => exact absurd List.nil_prefix above
    | cons other tail =>
      rw [file?_cons, file?_cons, child?_put]
      split
      next same =>
        subst same
        rw [List.cons_prefix_cons] at above below
        have deeper : ∀ here : Node, (here.put rest node).file? tail = here.file? tail :=
          ih (fun below => above ⟨rfl, below⟩) fun above => below ⟨rfl, above⟩
        rw [Option.bind_some, deeper]
        cases tree.child? other with
        | some node => rfl
        | none =>
          cases tail with
          | nil => exact absurd ⟨rfl, List.nil_prefix⟩ above
          | cons => rfl
      next => rfl

theorem file?_put_some {path place : List String} {tree node : Node} (plain : node.IsPlain)
    (present : (tree.put place node).file? path ≠ none) :
    path = place ∨ tree.file? path ≠ none := by
  induction place generalizing path tree with
  | nil =>
    cases path with
    | nil => exact .inl rfl
    | cons name rest => exact absurd (plain.below name rest) present
  | cons name rest ih =>
    cases path with
    | nil =>
      rw [file?_nil, put] at present
      exact absurd rfl present
    | cons other tail =>
      rw [file?_cons, child?_put] at present
      rw [file?_cons]
      split at present
      next same =>
        subst same
        rcases ih present with same | below
        · exact .inl (by rw [same])
        · refine .inr ?_
          cases here : tree.child? other with
          | some node => simpa [here] using below
          | none =>
            rw [here] at below
            cases tail with
            | nil => exact absurd rfl below
            | cons => exact absurd rfl below
      next => exact .inr present

theorem file?_erase (tree : Node) (name other : String) (rest : List String) :
    (tree.erase [name]).file? (other :: rest) =
      if other = name then none else tree.file? (other :: rest) := by
  rw [file?_cons, child?_erase, file?_cons]
  split <;> rfl

theorem isFile_child {tree : Node} {name : String}
    (file : (tree.child? name).any isFile = true) :
    ∃ node, tree.child? name = some node ∧ isFile node = true :=
  (Option.any_eq_true _ _).mp file

theorem file?_removeFile_one (name : String) (path : List String) (tree : Node) :
    (removeFile [name] tree).file? path = if path = [name] then none else tree.file? path := by
  unfold removeFile
  cases path with
  | nil =>
    have apart : ¬ ([] : List String) = [name] := nofun
    rw [if_neg apart]
    split
    next file =>
      cases tree with
      | dir entries => rfl
      | _ => cases file
    next => rfl
  | cons other tail =>
    split
    next file =>
      rw [file?_erase]
      obtain ⟨node, here, isOne⟩ := isFile_child file
      by_cases own : other = name
      next =>
        subst own
        rw [if_pos rfl, file?_cons, here, Option.bind_some]
        cases tail with
        | nil => rw [if_pos rfl]
        | cons below more => rw [IsPlain.below (.inl isOne), ite_self]
      next => rw [if_neg own, if_neg (by simp [own])]
    next none =>
      split
      next same =>
        rw [same, file?_cons]
        cases here : tree.child? name with
        | none => rfl
        | some node =>
          have dir : isFile node = false := by simpa [here] using none
          rw [Option.bind_some, file?_nil, dir]
          rfl
      next => rfl

theorem file?_removeFile (place path : List String) (tree : Node) (inside : place ≠ []) :
    (removeFile place tree).file? path = if path = place then none else tree.file? path := by
  induction place generalizing path tree with
  | nil => exact absurd rfl inside
  | cons name rest ih =>
    cases rest with
    | nil => exact file?_removeFile_one name path tree
    | cons next more =>
      unfold removeFile
      cases here : tree.child? name with
      | none =>
        simp only
        split
        next same => rw [same, file?_cons, here, Option.bind_none]
        next => rfl
      | some below =>
        have deeper := fun path => ih path below (by simp)
        cases tree with
        | dir entries =>
          cases path with
          | nil =>
            rw [if_neg (by simp)]
            simp only
            split <;> rfl
          | cons other tail =>
            have want : (if (other :: tail : List String) = name :: next :: more then none
                else (Node.dir entries).file? (other :: tail)) =
                if other = name then (removeFile (next :: more) below).file? tail
                else (Node.dir entries).file? (other :: tail) := by
              by_cases own : other = name
              next => simp [own, deeper, file?_cons, here]
              next => simp [own]
            rw [want]
            simp only
            split
            -- a directory that has become empty goes with its last file
            next empty =>
              rw [file?_erase, empty]
              split
              next => cases tail <;> rfl
              next => rfl
            next =>
              rw [file?_cons, child?, lookup_putEntry, lookup_entries]
              split
              next => rfl
              next => rw [file?_cons]
        | _ => cases here

end Node

end FleetSearch.Disk
