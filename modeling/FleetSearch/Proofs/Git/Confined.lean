import FleetSearch.Proofs.Disk.Follow
import FleetSearch.Proofs.Git.Upkeep

set_option autoImplicit false

namespace FleetSearch.Disk

namespace Node

variable {tree node : Node} {place path : List String}

theorem dir_above {rest : List String} (there : tree.get? (path ++ rest) = some node)
    (more : rest ≠ []) : ∃ entries, tree.get? path = some (.dir entries) := by
  rw [get?_append] at there
  obtain ⟨above, here, below⟩ := Option.bind_eq_some_iff.mp there
  cases rest with
  | nil => exact absurd rfl more
  | cons name rest =>
    cases above with
    | dir entries => exact ⟨entries, here⟩
    | _ => cases below

theorem file?_of_dir {entries : List (String × Node)} (here : tree.get? path = some (.dir entries)) :
    tree.file? path = none := by
  rw [file?, here]
  rfl

theorem file?_put_above {rest : List String} (more : rest ≠ []) :
    (tree.put (path ++ rest) node).file? path = none := by
  cases rest with
  | nil => exact absurd rfl more
  | cons name rest => exact file?_of_dir (get?_put path (name :: rest) tree node)

theorem file?_put_outside {inner : List String} {old : Node} (there : tree.get? place = some old)
    (within : place <+: inner) (outside : ¬ place <+: path) :
    (tree.put inner node).file? path = tree.file? path := by
  by_cases above : path <+: inner
  next =>
    have shorter : path <+: place :=
      (List.prefix_or_prefix_of_prefix above within).resolve_right outside
    obtain ⟨between, rfl⟩ := shorter
    obtain ⟨more, rfl⟩ := within
    have apart : between ≠ [] := by
      rintro rfl
      exact outside (by simp)
    obtain ⟨entries, here⟩ := dir_above there apart
    rw [List.append_assoc, file?_put_above (by simp [apart]), file?_of_dir here]
  next =>
    exact file?_put_apart above (fun below => outside (within.trans below)) tree node

end Node

namespace Volume

variable {v w : Volume}

theorem link_iff {place : List String} {target : String} :
    v.root.get? place = some (.link target) ↔ v.root.file? place = some (.link target) := by
  rw [Node.file?]
  cases v.root.get? place with
  | none => simp
  | some node => cases node <;> simp [Option.filter, Git.isFile]

theorem IsStraight.of_files {path : String} (straight : v.IsStraight path)
    (same : ∀ place, w.root.file? place = v.root.file? place) : w.IsStraight path := by
  intro before first target there
  rw [link_iff, same, ← link_iff] at there
  exact straight before first target there

theorem Follows.exists {last : Bool} {links : Nat} {here todo place : List String}
    (follows : Follows v last links here todo place) (there : ∃ node, v.root.get? here = some node) :
    ∃ node, v.root.get? place = some node := by
  have below : ∀ {here : List String} {entries : List (String × Node)} {piece : String}
      {node : Node}, v.root.get? here = some (.dir entries) -> entries.lookup piece = some node ->
      ∃ node, v.root.get? (here ++ [piece]) = some node := by
    intro here entries piece node inside found
    refine ⟨node, ?_⟩
    rw [Node.get?_concat, inside]
    exact found
  induction follows with
  | done => exact there
  | here _ _ ih => exact ih there
  | @up _ here _ _ entries inside deep _ ih =>
    have parts := List.dropLast_append_getLast deep
    rw [← parts] at inside
    obtain ⟨entries, above⟩ := Node.dir_above inside (by simp)
    exact ih ⟨_, above⟩
  | name inside _ _ found _ _ ih => exact ih (below inside found)
  | stay inside _ _ found => exact below inside found
  | jump inside _ _ found _ _ _ ih => exact ih there

theorem locate_exists {last : Bool} {path : String} {place : List String}
    (found : v.locate last path = .ok place) : ∃ node, v.root.get? place = some node :=
  (locate_follows found).2.2.2.exists ⟨_, rfl⟩

theorem made_of_checks {place : List String} {name : String} {node : Node}
    (there : v.root.get? place = some node)
    (made : (if !node.isDir then throw Fault.notDirectory
      else if longestName < name.utf8ByteSize then throw Fault.nameTooLong
      else if (node.child? name).isSome then throw Fault.present
      else pure { root := v.root.put (place ++ [name]) (.dir []) } : Except Fault Volume) = .ok w) :
    ∃ entries, v.root.get? place = some (.dir entries) ∧ entries.lookup name = none ∧
      w = { root := v.root.put (place ++ [name]) (.dir []) } := by
  split at made
  next => cases made
  next inside =>
    split at made
    next => cases made
    next =>
      split at made
      next => cases made
      next absent =>
        cases made
        have absent : node.child? name = none := Option.not_isSome_iff_eq_none.mp absent
        cases node with
        | dir entries => exact ⟨entries, there, absent, rfl⟩
        | _ => exact absurd rfl inside

theorem makeDir_made {path : String} (made : v.makeDir path = .ok w) :
    ∃ place entries name, v.root.get? place = some (.dir entries) ∧ entries.lookup name = none ∧
      w = { root := v.root.put (place ++ [name]) (.dir []) } := by
  unfold makeDir at made
  simp only at made
  split at made
  next => cases made
  next name _ =>
    split at made
    next =>
      have here : v.root.get? [] = some v.root := rfl
      obtain ⟨entries, made⟩ := made_of_checks here made
      exact ⟨[], entries, name, made⟩
    next =>
      obtain ⟨place, _, made⟩ := Git.bind_ok made
      split at made
      next => cases made
      next there =>
        obtain ⟨entries, made⟩ := made_of_checks there made
        exact ⟨place, entries, name, made⟩

theorem makeDir_files {path : String} (made : v.makeDir path = .ok w) (place : List String) :
    w.root.file? place = v.root.file? place := by
  obtain ⟨up, entries, name, there, absent, rfl⟩ := makeDir_made made
  by_cases outside : up <+: place
  next =>
    obtain ⟨rest, rfl⟩ := outside
    have old : v.root.file? (up ++ rest) = (Node.dir entries).file? rest := by
      rw [Node.file?, Node.get?_append, there]
      rfl
    have new : (v.root.put (up ++ [name]) (.dir [])).file? (up ++ rest) =
        ((Node.dir entries).put [name] (.dir [])).file? rest := by
      rw [Node.file?, Node.get?_append, Node.get?_put, there]
      rfl
    rw [old, new]
    cases rest with
    | nil => rfl
    | cons other rest =>
      rw [Node.file?_cons, Node.file?_cons, Node.child?_put]
      split
      next same =>
        have missing : (Node.dir entries).child? other = none := by rw [same]; exact absent
        rw [missing]
        cases rest <;> rfl
      next => rfl
  next => exact Node.file?_put_outside there (List.prefix_append up [name]) outside

theorem makeDirsFrom_files {fuel : Nat} {path : String} (made : v.makeDirsFrom fuel path = .ok w)
    (place : List String) : w.root.file? place = v.root.file? place := by
  induction fuel generalizing v w path with
  | zero => cases made
  | succ fuel ih =>
    rw [makeDirsFrom] at made
    split at made
    next => cases made; rfl
    next =>
      split at made
      next => cases made
      next =>
        split at made
        next one =>
          cases made
          exact makeDir_files one place
        next =>
          obtain ⟨up, above, made⟩ := Git.bind_ok made
          exact (makeDir_files made place).trans (ih above)
        next =>
          split at made
          next => cases made; rfl
          next => cases made

theorem makeDirs_files {path : String} (made : v.makeDirs path = .ok w) (place : List String) :
    w.root.file? place = v.root.file? place :=
  makeDirsFrom_files made place

end Volume

end FleetSearch.Disk

namespace FleetSearch.Git

open FleetSearch.Disk FleetSearch.Disk.Path

variable {v : Volume} {dir : String} {site : Site} {path : List String}

theorem find?_tree (found : Site.find? v dir = some site) : v.locate true dir = .ok site.tree := by
  unfold Site.find? at found
  obtain ⟨tree, place, found⟩ := Option.bind_eq_some_iff.mp found
  have there : v.locate true dir = .ok tree := by
    cases located : v.locate true dir with
    | error fault => simp [located, Except.toOption] at place
    | ok other => simpa [located, Except.toOption] using place
  split at found
  next => cases found; exact there
  next =>
    split at found
    next => cases found; exact there
    next => cases found

theorem openRepository_find {r : Repository} (opened : openRepository v dir = .ok (site, r)) :
    Site.find? v dir = some site := by
  unfold openRepository at opened
  split at opened
  next => cases opened
  next found =>
    split at opened
    next => cases opened
    next => cases opened; exact found

theorem write_outside (w : Workspace) {node : Node} (there : v.root.get? site.tree = some node)
    (housed : site.tree <+: site.git) (outside : ¬ site.tree <+: path) :
    (w.write v site).root.file? path = v.root.file? path := by
  unfold Workspace.write
  by_cases bare : site.isBare = true
  next =>
    simp only [bare, if_true]
    exact Node.file?_put_outside there housed outside
  next =>
    simp only [bare]
    have stands : ∃ node, (v.root.put site.tree
        (w.writeTree ((v.root.get? site.tree).getD (.dir [])))).get? site.tree = some node := by
      have put := Node.get?_put site.tree [] v.root
      simp only [List.append_nil] at put
      exact ⟨_, put _⟩
    obtain ⟨node, still⟩ := stands
    exact (Node.file?_put_outside still housed outside).trans
      (Node.file?_put_outside there (List.prefix_refl _) outside)

theorem pull_outside
    (housed : ∀ site, Site.find? v dir = some site -> site.tree <+: site.git)
    (outside : ∀ place, v.locate true dir = .ok place -> ¬ place <+: path) :
    (pull v dir).volume.root.file? path = v.root.file? path := by
  cases opened : openRepository v dir with
  | error fault => simp [pull, opened]
  | ok found =>
    obtain ⟨site, r⟩ := found
    have own := openRepository_find opened
    have place := find?_tree own
    obtain ⟨node, there⟩ := Volume.locate_exists place
    rcases (pull_read opened).2 with written | ⟨same, _⟩
    · rw [written]
      exact write_outside _ there (housed site own) (outside _ place)
    · rw [same]

theorem cloneInto_outside {url : String} {made : Volume} {w : Workspace}
    (ran : cloneInto v url dir = .ok (made, w)) (straight : v.IsStraight dir)
    (outside : ¬ leadsTo [] dir <+: path) : made.root.file? path = v.root.file? path := by
  unfold cloneInto at ran
  obtain ⟨origin, _, ran⟩ := bind_ok ran
  obtain ⟨⟨w', branch⟩, _, ran⟩ := bind_ok ran
  obtain ⟨dirs, below, ran⟩ := bind_ok ran
  obtain ⟨tree, place, ran⟩ := bind_ok ran
  cases ran
  have files := Volume.makeDirs_files (mapError_ok below)
  have leads := (straight.of_files files).locate (mapError_ok place)
  obtain ⟨node, there⟩ := Volume.locate_exists (mapError_ok place)
  rw [← leads] at outside
  have within : tree <+: tree ++ [".git"] := List.prefix_append ..
  let framed := dirs.root.put (tree ++ [".git"]) (frame (settingsText url branch))
  have stands : ∃ node, framed.get? tree = some node := ⟨_, Node.get?_put tree [".git"] _ _⟩
  obtain ⟨again, still⟩ := stands
  calc (w.write { root := framed } { tree, git := tree ++ [".git"] }).root.file? path
      = framed.file? path := write_outside w still within outside
    _ = dirs.root.file? path := Node.file?_put_outside there within outside
    _ = v.root.file? path := files path

theorem clone_outside (url : String) (straight : v.IsStraight dir) (outside : ¬ leadsTo [] dir <+: path) :
    (clone v url dir).volume.root.file? path = v.root.file? path := by
  unfold clone
  simp only
  split
  next => rfl
  next up above =>
    have files := Volume.makeDirs_files above
    split
    next => exact files path
    next made w cloned =>
      exact (cloneInto_outside cloned (straight.of_files files) outside).trans (files path)

theorem sync_confined (url : Option String) (straight : v.IsStraight dir)
    (housed : ∀ site, Site.find? v dir = some site -> site.tree <+: site.git)
    (outside : ¬ leadsTo [] dir <+: path) :
    (sync v url dir).volume.root.file? path = v.root.file? path := by
  unfold sync
  cases url with
  | none => simp only; split <;> rfl
  | some url =>
    simp only
    split
    next => exact pull_outside housed fun place located => straight.locate located ▸ outside
    next => exact clone_outside url straight outside

end FleetSearch.Git
