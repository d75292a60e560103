import FleetSearch.Proofs.Disk.Leads
import Mathlib.Data.List.Infix

set_option autoImplicit false

/-!
How a path is followed through a tree, one part after the other.
-/

namespace FleetSearch.Disk

open FleetSearch.Disk.Path

namespace Node

theorem get?_append (first rest : List String) (tree : Node) :
    tree.get? (first ++ rest) = (tree.get? first).bind (get? rest) := by
  induction first generalizing tree with
  | nil => rfl
  | cons name first ih =>
    rw [List.cons_append, get?, get?]
    cases tree.child? name with
    | none => rfl
    | some below => exact ih below

theorem get?_concat (place : List String) (name : String) (tree : Node) :
    tree.get? (place ++ [name]) = (tree.get? place).bind (child? name) := by
  rw [get?_append]
  congr 1
  funext node
  simp [get?]

end Node

namespace Volume

/-- A path that is followed from `here` ends at a place, with so many links on the way at most. -/
inductive Follows (v : Volume) (last : Bool) : Nat -> List String -> List String ->
    List String -> Prop
  | done {links : Nat} {here : List String} : Follows v last links here [] here
  | here {links : Nat} {here rest place : List String} {entries : List (String × Node)}
      (inside : v.root.get? here = some (.dir entries))
      (later : Follows v last links here rest place) :
      Follows v last links here ("." :: rest) place
  | up {links : Nat} {here rest place : List String} {entries : List (String × Node)}
      (inside : v.root.get? here = some (.dir entries)) (deep : here ≠ [])
      (later : Follows v last links here.dropLast rest place) :
      Follows v last links here (".." :: rest) place
  | name {links : Nat} {here rest place : List String} {piece : String}
      {entries : List (String × Node)} {node : Node}
      (inside : v.root.get? here = some (.dir entries)) (own : piece ≠ "." ∧ piece ≠ "..")
      (short : piece.utf8ByteSize ≤ longestName) (there : entries.lookup piece = some node)
      (plain : ∀ target, node ≠ .link target)
      (later : Follows v last links (here ++ [piece]) rest place) :
      Follows v last links here (piece :: rest) place
  -- a link at the end is what the path leads to, unless it is to be followed
  | stay {links : Nat} {here : List String} {piece target : String}
      {entries : List (String × Node)}
      (inside : v.root.get? here = some (.dir entries)) (own : piece ≠ "." ∧ piece ≠ "..")
      (short : piece.utf8ByteSize ≤ longestName) (there : entries.lookup piece = some (.link target))
      (ends : last = false) :
      Follows v last links here [piece] (here ++ [piece])
  | jump {links : Nat} {here rest place : List String} {piece target : String}
      {entries : List (String × Node)}
      (inside : v.root.get? here = some (.dir entries)) (own : piece ≠ "." ∧ piece ≠ "..")
      (short : piece.utf8ByteSize ≤ longestName) (there : entries.lookup piece = some (.link target))
      (goesOn : (rest.isEmpty && !last) = false)
      (relative : (isAbsolute target || target.isEmpty) = false)
      (later : Follows v last links here (steps target ++ rest) place) :
      Follows v last (links + 1) here (piece :: rest) place

variable {v : Volume} {last : Bool} {links : Nat} {here todo place : List String}

theorem followFrom_follows
    {jump : List String -> String -> List String -> Except Fault (List String)}
    (jumps : ∀ (here rest place : List String) (piece target : String)
      (entries : List (String × Node)), v.root.get? here = some (.dir entries) ->
      piece ≠ "." ∧ piece ≠ ".." -> piece.utf8ByteSize ≤ longestName ->
      entries.lookup piece = some (.link target) -> (rest.isEmpty && !last) = false ->
      jump here target rest = .ok place -> Follows v last links here (piece :: rest) place)
    (went : v.followFrom last jump here todo = .ok place) : Follows v last links here todo place := by
  induction todo generalizing here with
  | nil =>
    cases went
    exact .done
  | cons piece rest ih =>
    rw [followFrom] at went
    cases inside : v.root.get? here with
    | none => simp [inside] at went
    | some node =>
      simp only [inside] at went
      cases node with
      | file data => simp [Node.isDir] at went
      | link target => simp [Node.isDir] at went
      | dir entries =>
        rw [if_neg (by simp [Node.isDir])] at went
        split at went
        next dot =>
          subst dot
          exact .here inside (ih went)
        next dot =>
          split at went
          next dots =>
            subst dots
            split at went
            next => cases went
            next deep => exact .up inside (by simpa using deep) (ih went)
          next dots =>
            split at went
            next => cases went
            next short =>
              have short : piece.utf8ByteSize ≤ longestName := by omega
              split at went
              next => cases went
              next target there =>
                split at went
                next ends =>
                  obtain ⟨rfl, final⟩ : rest = [] ∧ last = false := by simpa using ends
                  cases went
                  exact .stay inside ⟨dot, dots⟩ short there final
                next goesOn =>
                  exact jumps _ _ _ _ _ _ inside ⟨dot, dots⟩ short there (by simpa using goesOn) went
              next node plain there =>
                exact .name inside ⟨dot, dots⟩ short there plain (ih went)

theorem follows_of_follow (went : v.follow last links here todo = .ok place) :
    Follows v last links here todo place := by
  induction links generalizing here todo place with
  | zero =>
    rw [follow] at went
    exact followFrom_follows (fun _ _ _ _ _ _ _ _ _ _ _ stuck => by cases stuck) went
  | succ links ih =>
    rw [follow] at went
    refine followFrom_follows (fun here rest place piece target entries inside own short there
      goesOn jumped => ?_) went
    split at jumped
    next => cases jumped
    next relative => exact .jump inside own short there goesOn (by simpa using relative) (ih jumped)

theorem follow_of_follows (follows : Follows v last links here todo place) :
    v.follow last links here todo = .ok place := by
  induction follows with
  | @done links here => cases links <;> rfl
  | @here links _ _ _ _ inside _ ih =>
    cases links <;> simpa [follow, followFrom, inside, Node.isDir] using ih
  | @up links _ _ _ _ inside deep _ ih =>
    cases links <;> simpa [follow, followFrom, inside, Node.isDir, deep] using ih
  | @name links here rest place piece entries node inside own short there plain _ ih =>
    have fits : ¬ longestName < piece.utf8ByteSize := by omega
    cases node with
    | link target => exact absurd rfl (plain target)
    | _ =>
      cases links <;>
        simpa [follow, followFrom, inside, Node.isDir, own, fits, Node.child?, there] using ih
  | @stay links here piece target entries inside own short there ends =>
    have fits : ¬ longestName < piece.utf8ByteSize := by omega
    cases links <;>
      simp [follow, followFrom, inside, Node.isDir, own, fits, Node.child?, there, ends]
  | @jump links here rest place piece target entries inside own short there goesOn relative _ ih =>
    have fits : ¬ longestName < piece.utf8ByteSize := by omega
    rw [follow, followFrom, inside]
    simp only [Node.isDir, own.1, own.2, fits, Node.child?, there, goesOn, relative]
    exact ih

theorem Follows.append {more goal : List String} (follows : Follows v true links here todo place)
    (onward : ∀ links, Follows v true links place more goal) :
    Follows v true links here (todo ++ more) goal := by
  induction follows with
  | done => exact onward _
  | here inside _ ih => exact .here inside (ih onward)
  | up inside deep _ ih => exact .up inside deep (ih onward)
  | name inside own short there plain _ ih => exact .name inside own short there plain (ih onward)
  | stay _ _ _ _ ends => cases ends
  | jump inside own short there _ relative _ ih =>
    have later := ih onward
    rw [List.append_assoc] at later
    exact .jump inside own short there (by simp) relative later

theorem Follows.split {first more : List String}
    (follows : Follows v true links here (first ++ more) place) :
    ∃ between left, Follows v true links here first between ∧
      Follows v true left between more place := by
  generalize whole : first ++ more = todo at follows
  induction follows generalizing first with
  | done =>
    obtain ⟨rfl, rfl⟩ := List.append_eq_nil_iff.mp whole
    exact ⟨_, 0, .done, .done⟩
  | @here links here rest place entries inside later ih =>
    cases first with
    | nil =>
      rw [List.nil_append] at whole
      subst whole
      exact ⟨here, _, .done, .here inside later⟩
    | cons piece first =>
      obtain ⟨rfl, same⟩ : piece = "." ∧ first ++ more = rest := by simpa using whole
      obtain ⟨between, left, before, after⟩ := ih same
      exact ⟨between, left, .here inside before, after⟩
  | @up links here rest place entries inside deep later ih =>
    cases first with
    | nil =>
      rw [List.nil_append] at whole
      subst whole
      exact ⟨here, _, .done, .up inside deep later⟩
    | cons piece first =>
      obtain ⟨rfl, same⟩ : piece = ".." ∧ first ++ more = rest := by simpa using whole
      obtain ⟨between, left, before, after⟩ := ih same
      exact ⟨between, left, .up inside deep before, after⟩
  | @name links here rest place piece entries node inside own short there plain later ih =>
    cases first with
    | nil =>
      rw [List.nil_append] at whole
      subst whole
      exact ⟨here, _, .done, .name inside own short there plain later⟩
    | cons other first =>
      obtain ⟨rfl, same⟩ : other = piece ∧ first ++ more = rest := by simpa using whole
      obtain ⟨between, left, before, after⟩ := ih same
      exact ⟨between, left, .name inside own short there plain before, after⟩
  | stay _ _ _ _ ends => cases ends
  | @jump links here rest place piece target entries inside own short there _ relative later ih =>
    cases first with
    | nil =>
      rw [List.nil_append] at whole
      subst whole
      exact ⟨here, _, .done, .jump inside own short there (by simp) relative later⟩
    | cons other first =>
      obtain ⟨rfl, rfl⟩ : other = piece ∧ first ++ more = rest := by simpa using whole
      obtain ⟨between, left, before, after⟩ := @ih (steps target ++ first) (by simp)
      exact ⟨between, left, .jump inside own short there (by simp) relative before, after⟩

theorem Follows.dot (follows : Follows v last links here ["."] place) : place = here := by
  generalize whole : ["."] = todo at follows
  cases follows with
  | done => cases whole
  | here _ later =>
    obtain rfl := (List.cons.inj whole).2
    cases later
    rfl
  | up => exact absurd (List.cons.inj whole).1 (by decide)
  | name _ own => exact absurd (List.cons.inj whole).1.symm own.1
  | stay _ own => exact absurd (List.cons.inj whole).1.symm own.1
  | jump _ own => exact absurd (List.cons.inj whole).1.symm own.1

theorem Follows.unfollowed (follows : Follows v true links here todo place) :
    ∃ short, Follows v false links here todo short ∧
      (short = place ∨ ∃ target, v.root.get? short = some (.link target)) := by
  induction follows with
  | done => exact ⟨_, .done, .inl rfl⟩
  | here inside _ ih =>
    obtain ⟨short, follows, ends⟩ := ih
    exact ⟨short, .here inside follows, ends⟩
  | up inside deep _ ih =>
    obtain ⟨short, follows, ends⟩ := ih
    exact ⟨short, .up inside deep follows, ends⟩
  | name inside own fits there plain _ ih =>
    obtain ⟨short, follows, ends⟩ := ih
    exact ⟨short, .name inside own fits there plain follows, ends⟩
  | stay _ _ _ _ ends => cases ends
  | @jump links here rest place piece target entries inside own fits there _ relative _ ih =>
    cases rest with
    | nil =>
      refine ⟨_, .stay inside own fits there rfl, .inr ⟨target, ?_⟩⟩
      rw [Node.get?_concat, inside]
      exact there
    | cons next rest =>
      obtain ⟨short, follows, ends⟩ := ih
      exact ⟨short, .jump inside own fits there rfl relative follows, ends⟩

theorem steps_eq (path : String) :
    steps path = (filled path.toList).map String.ofList ++
      if path.toList.getLast? == some '/' then ["."] else [] := by
  have empty : ∀ piece : List Char, (String.ofList piece).isEmpty = piece.isEmpty := by
    intro piece
    rw [Bool.eq_iff_iff, String.isEmpty_iff, List.isEmpty_iff]
    simp
  simp only [steps, filled, List.filter_map, Function.comp_def, empty]

def enterPiece (here : List String) (piece : String) : List String :=
  enter here (partOf piece.toList)

theorem enterPiece_name {piece : String} (own : piece ≠ "." ∧ piece ≠ "..") (here : List String) :
    enterPiece here piece = here ++ [piece] := by
  have dot : piece.toList ≠ ['.'] := fun same => own.1 (String.ext same)
  have dots : piece.toList ≠ ['.', '.'] := fun same => own.2 (String.ext same)
  rw [enterPiece, partOf, if_neg dot, if_neg dots, String.ofList_toList, enter]

def MeetsNoLink (v : Volume) (here todo : List String) : Prop :=
  ∀ before, before <+: todo -> ∀ target,
    v.root.get? (before.foldl enterPiece here) ≠ some (.link target)

def isLink : Node -> Bool
  | .link _ => true
  | _ => false

theorem meetsNoLink_iff (v : Volume) (here todo : List String) :
    v.MeetsNoLink here todo ↔
      ∀ before ∈ todo.inits, (v.root.get? (before.foldl enterPiece here)).any isLink = false := by
  refine forall_congr' fun before => imp_congr (List.mem_inits _ _).symm ?_
  rcases v.root.get? (before.foldl enterPiece here) with _ | node
  · simp
  · cases node <;> simp [isLink]

instance (v : Volume) (here todo : List String) : Decidable (v.MeetsNoLink here todo) :=
  decidable_of_iff _ (meetsNoLink_iff v here todo).symm

theorem MeetsNoLink.later {piece : String} {rest : List String}
    (clear : v.MeetsNoLink here (piece :: rest)) : v.MeetsNoLink (enterPiece here piece) rest :=
  fun before first => clear (piece :: before) ((List.prefix_cons_inj piece).mpr first)

theorem MeetsNoLink.first {piece target : String} {rest : List String}
    {entries : List (String × Node)} (clear : v.MeetsNoLink here (piece :: rest))
    (inside : v.root.get? here = some (.dir entries)) (own : piece ≠ "." ∧ piece ≠ "..") :
    entries.lookup piece ≠ some (.link target) := by
  have start : [piece] <+: piece :: rest := ⟨rest, rfl⟩
  intro there
  refine clear [piece] start target ?_
  rw [List.foldl_cons, List.foldl_nil, enterPiece_name own, Node.get?_concat, inside]
  exact there

theorem Follows.leads (follows : Follows v last links here todo place)
    (clear : v.MeetsNoLink here todo) : place = todo.foldl enterPiece here := by
  induction follows with
  | done => rfl
  | here _ _ ih => exact ih clear.later
  | up _ _ _ ih => exact ih clear.later
  | @name _ here _ _ piece _ _ _ own _ _ _ _ ih =>
    have leads := clear.later
    rw [List.foldl_cons, enterPiece_name own] at *
    exact ih leads
  | stay inside own _ there _ => exact absurd there (clear.first inside own)
  | jump inside own _ there _ _ _ _ => exact absurd there (clear.first inside own)

theorem locate_follows {path : String} (found : v.locate last path = .ok place) :
    '\x00' ∉ path.toList ∧ path ≠ "" ∧ isAbsolute path = false ∧
      Follows v last mostLinks [] (steps path) place := by
  rw [locate] at found
  split at found
  next => cases found
  next whole =>
    split at found
    next => cases found
    next there =>
      obtain ⟨named, relative⟩ : path ≠ "" ∧ isAbsolute path = false := by simpa using there
      exact ⟨by simpa using whole, named, relative, follows_of_follow found⟩

-- Where no link lies on the way, a path leads where it is written to lead.
def IsStraight (v : Volume) (path : String) : Prop :=
  v.MeetsNoLink [] (steps path)

instance (v : Volume) (path : String) : Decidable (v.IsStraight path) :=
  inferInstanceAs (Decidable (v.MeetsNoLink [] (steps path)))

theorem IsStraight.locate {path : String} (straight : v.IsStraight path)
    (found : v.locate last path = .ok place) : place = leadsTo [] path := by
  obtain ⟨_, _, relative, follows⟩ := locate_follows found
  have pieces : ∀ (here : List String) (parts : List (List Char)),
      (parts.map String.ofList).foldl enterPiece here = (parts.map partOf).foldl enter here := by
    intro here parts
    rw [List.foldl_map, List.foldl_map]
    simp [enterPiece]
  rw [follows.leads straight, steps_eq, List.foldl_append, pieces, leadsTo_eq, relative]
  split <;> rfl

end Volume

end FleetSearch.Disk
