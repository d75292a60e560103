import FleetSearch.Git.Workspace
import FleetSearch.Proofs.Disk.Tree
import Mathlib.Data.List.Basic

set_option autoImplicit false

/-!
The files of a commit and what a checkout makes of them. More objects in a repository change no
file of a commit that was whole before, and a working tree in which every file was tracked has the
files of the commit that is checked out and no others.
-/

namespace FleetSearch.Git

open FleetSearch.Disk

theorem bind_ok {A B E : Type} {x : Except E A} {f : A -> Except E B} {b : B}
    (ran : x >>= f = .ok b) : ∃ a, x = .ok a ∧ f a = .ok b := by
  cases x with
  | error e => cases ran
  | ok a => exact ⟨a, rfl, ran⟩

theorem mapError_ok {A E F : Type} {x : Except E A} {f : E -> F} {a : A}
    (ran : x.mapError f = .ok a) : x = .ok a := by
  cases x with
  | error e => cases ran
  | ok other =>
    cases ran
    rfl

theorem mapM_ok {A B E : Type} {f : A -> Except E B} {xs : List A} {ys : List B}
    (ran : xs.mapM f = .ok ys) :
    (xs.zip ys).map Prod.fst = xs ∧ ∀ p ∈ xs.zip ys, f p.1 = .ok p.2 := by
  induction xs generalizing ys with
  | nil => exact ⟨rfl, by simp⟩
  | cons x rest ih =>
    rw [List.mapM_cons] at ran
    obtain ⟨y, one, ran⟩ := bind_ok ran
    obtain ⟨more, others, ran⟩ := bind_ok ran
    cases ran
    obtain ⟨firsts, each⟩ := ih others
    refine ⟨by rw [List.zip_cons_cons, List.map_cons, firsts], fun p member => ?_⟩
    rw [List.zip_cons_cons] at member
    rcases List.mem_cons.mp member with rfl | later
    · exact one
    · exact each p later

theorem mapM_mono {A B E : Type} {f g : A -> Except E B} {xs : List A} {ys : List B}
    (each : ∀ x y, f x = .ok y -> g x = .ok y) (ran : xs.mapM f = .ok ys) : xs.mapM g = .ok ys := by
  induction xs generalizing ys with
  | nil => exact ran
  | cons x rest ih =>
    rw [List.mapM_cons] at ran ⊢
    obtain ⟨y, one, ran⟩ := bind_ok ran
    obtain ⟨more, others, ran⟩ := bind_ok ran
    rw [each x y one, ih others]
    exact ran

theorem bind_error {A B E : Type} {x : Except E A} {f : A -> Except E B} {e : E}
    (ran : x >>= f = .error e) : x = .error e ∨ ∃ a, x = .ok a ∧ f a = .error e := by
  cases x with
  | error other =>
    cases ran
    exact .inl rfl
  | ok a => exact .inr ⟨a, rfl, ran⟩

theorem mapM_error {A B E : Type} {f : A -> Except E B} {xs : List A} {e : E}
    (ran : xs.mapM f = .error e) : ∃ x ∈ xs, f x = .error e := by
  induction xs with
  | nil => cases ran
  | cons x rest ih =>
    rw [List.mapM_cons] at ran
    rcases bind_error ran with first | ⟨_, _, ran⟩
    · exact ⟨x, List.mem_cons_self, first⟩
    · rcases bind_error ran with later | ⟨_, _, ran⟩
      · obtain ⟨other, member, failed⟩ := ih later
        exact ⟨other, List.mem_cons_of_mem _ member, failed⟩
      · cases ran

namespace Repository

structure Within (r s : Repository) : Prop where
  objects : ∀ id packed, r.objects.lookup id = some packed -> s.objects.lookup id = some packed
  length : r.objects.length ≤ s.objects.length

variable {r s t : Repository}

theorem Within.refl (r : Repository) : r.Within r :=
  ⟨fun _ _ => id, Nat.le_refl _⟩

theorem Within.trans (first : r.Within s) (second : s.Within t) : r.Within t :=
  ⟨fun id packed there => second.objects id packed (first.objects id packed there),
    Nat.le_trans first.length second.length⟩

theorem within_adopt (r : Repository) (objects : List (Id × ByteArray)) :
    r.Within (r.adopt objects) := by
  refine ⟨fun id packed there => ?_, ?_⟩
  · rw [adopt, List.lookup_append, there]
    rfl
  · rw [adopt, List.length_append]
    exact Nat.le_add_right _ _

theorem Within.object? (within : r.Within s) {id : Id} {o : Object}
    (there : r.object? id = some o) : s.object? id = some o := by
  unfold Repository.object? at there ⊢
  obtain ⟨packed, here, unpacked⟩ := Option.bind_eq_some_iff.mp there
  rw [within.objects id packed here]
  exact unpacked

theorem peelFrom_within (within : r.Within s) {fuel more : Nat} (enough : fuel ≤ more) {id : Id}
    {found : Id × Commit} (peeled : r.peelFrom fuel id = some found) :
    s.peelFrom more id = some found := by
  induction fuel generalizing more id with
  | zero => cases peeled
  | succ fuel ih =>
    obtain ⟨more, rfl⟩ := Nat.exists_eq_add_of_le' (Nat.le_trans (Nat.succ_pos fuel) enough)
    unfold peelFrom at peeled ⊢
    cases there : r.object? id with
    | none => simp [there] at peeled
    | some o =>
      rw [within.object? there]
      rw [there] at peeled
      cases o with
      | commit commit => exact peeled
      | tag target => exact ih (Nat.le_of_succ_le_succ enough) peeled
      | blob data => cases peeled
      | tree entries => cases peeled

theorem Within.peel? (within : r.Within s) {id : Id} {found : Id × Commit}
    (peeled : r.peel? id = some found) : s.peel? id = some found :=
  peelFrom_within within (Nat.succ_le_succ within.length) peeled

theorem object_of_peelFrom {fuel : Nat} {id tip : Id} {commit : Commit}
    (peeled : r.peelFrom fuel id = some (tip, commit)) : r.object? tip = some (.commit commit) := by
  induction fuel generalizing id with
  | zero => cases peeled
  | succ fuel ih =>
    unfold peelFrom at peeled
    split at peeled
    next found there =>
      cases peeled
      exact there
    next target there => exact ih peeled
    next => cases peeled

theorem object_of_peel {id tip : Id} {commit : Commit} (peeled : r.peel? id = some (tip, commit)) :
    r.object? tip = some (.commit commit) :=
  object_of_peelFrom peeled

theorem peel_of_object {id : Id} {commit : Commit} (there : r.object? id = some (.commit commit)) :
    r.peel? id = some (id, commit) := by
  rw [Repository.peel?, peelFrom, there]

theorem Within.nodeOf (within : r.Within s) {l : Leaf} {node : Node}
    (made : r.nodeOf l = .ok node) : s.nodeOf l = .ok node := by
  unfold Repository.nodeOf at made ⊢
  split at made
  next module => rw [if_pos module, made]
  next own =>
    rw [if_neg own]
    cases there : r.object? l.id with
    | none => simp [there] at made
    | some o =>
      rw [within.object? there]
      rw [there] at made
      exact made

theorem leavesBelow_tree {path : List String} {fuel : Nat} {id : Id} {leaves : List Leaf}
    (found : r.leavesBelow path (fuel + 1) id = .ok leaves) :
    ∃ entries, r.object? id = some (.tree entries) ∧
      r.leavesAmong path fuel entries = .ok leaves := by
  rw [leavesBelow] at found
  split at found
  next entries there => exact ⟨entries, there, found⟩
  next => cases found

def leavesOf (r : Repository) (path : List String) (fuel : Nat) (e : TreeEntry) :
    Except Fault (List Leaf) :=
  if e.kind = .folder then r.leavesBelow (path ++ [e.name]) fuel e.id
  else .ok [{ path := path ++ [e.name], kind := e.kind, id := e.id }]

theorem leavesAmong_cons (r : Repository) (path : List String) (fuel : Nat) (e : TreeEntry)
    (rest : List TreeEntry) :
    r.leavesAmong path fuel (e :: rest) = do
      let here <- r.leavesOf path fuel e
      let more <- r.leavesAmong path fuel rest
      return here ++ more := by
  rw [leavesAmong, leavesOf]
  split <;> rfl

theorem leavesAmong_ok {path : List String} {fuel : Nat} {e : TreeEntry} {rest : List TreeEntry}
    {leaves : List Leaf} (found : r.leavesAmong path fuel (e :: rest) = .ok leaves) :
    ∃ here more, r.leavesOf path fuel e = .ok here ∧ r.leavesAmong path fuel rest = .ok more ∧
      leaves = here ++ more := by
  rw [leavesAmong_cons] at found
  obtain ⟨here, one, found⟩ := bind_ok found
  obtain ⟨more, others, found⟩ := bind_ok found
  cases found
  exact ⟨here, more, one, others, rfl⟩

theorem leavesBelow_within (within : r.Within s) {fuel more : Nat} (enough : fuel ≤ more)
    {path : List String} {id : Id} {leaves : List Leaf}
    (found : r.leavesBelow path fuel id = .ok leaves) :
    s.leavesBelow path more id = .ok leaves := by
  induction fuel generalizing more path id leaves with
  | zero => rw [leavesBelow] at found; cases found
  | succ fuel ih =>
    obtain ⟨more, rfl⟩ := Nat.exists_eq_add_of_le' (Nat.le_trans (Nat.succ_pos fuel) enough)
    have less := Nat.le_of_succ_le_succ enough
    obtain ⟨entries, there, among⟩ := leavesBelow_tree found
    rw [leavesBelow, within.object? there]
    simp only
    clear there found
    induction entries generalizing leaves with
    | nil =>
      rw [leavesAmong] at among ⊢
      exact among
    | cons e rest deeper =>
      obtain ⟨here, others, one, later, rfl⟩ := leavesAmong_ok among
      have one : s.leavesOf path more e = .ok here := by
        unfold leavesOf at one ⊢
        split at one
        next folder => rw [if_pos folder, ih less one]
        next leaf => rw [if_neg leaf, one]
      rw [leavesAmong_cons, one, deeper later]
      rfl

theorem Within.leaves (within : r.Within s) {tree : Id} {leaves : List Leaf}
    (found : r.leaves tree = .ok leaves) : s.leaves tree = .ok leaves :=
  leavesBelow_within within (Nat.succ_le_succ within.length) found

theorem leavesBelow_error {fuel : Nat} {path : List String} {id : Id} {fault : Fault}
    (failed : r.leavesBelow path fuel id = .error fault) : ∃ lost, fault = .missingObject lost := by
  induction fuel generalizing path id with
  | zero =>
    rw [leavesBelow] at failed
    cases failed
    exact ⟨id, rfl⟩
  | succ fuel ih =>
    rw [leavesBelow] at failed
    split at failed
    next entries there =>
      clear there
      induction entries with
      | nil => rw [leavesAmong] at failed; cases failed
      | cons e rest deeper =>
        rw [leavesAmong_cons] at failed
        rcases bind_error failed with first | ⟨_, _, failed⟩
        · unfold leavesOf at first
          split at first
          next => exact ih first
          next => cases first
        · rcases bind_error failed with later | ⟨_, _, failed⟩
          · exact deeper later
          · cases failed
    next =>
      cases failed
      exact ⟨id, rfl⟩

def Tidy (r : Repository) : Prop :=
  ∀ id entries, r.object? id = some (.tree entries) -> (entries.map TreeEntry.name).Nodup

theorem Tidy.within (tidy : s.Tidy) (within : r.Within s) : r.Tidy :=
  fun id entries there => tidy id entries (within.object? there)

end Repository

def Leaf.Apart (a b : Leaf) : Prop :=
  ¬ a.path <+: b.path ∧ ¬ b.path <+: a.path

theorem Leaf.apart_of_names {a b : Leaf} {path : List String} {x y : String} (other : x ≠ y)
    (left : path ++ [x] <+: a.path) (right : path ++ [y] <+: b.path) : a.Apart b := by
  have apart : ∀ {c d : List String} {x y : String}, x ≠ y -> path ++ [x] <+: c ->
      path ++ [y] <+: d -> ¬ c <+: d := by
    rintro c d x y other left right inside
    rcases List.prefix_or_prefix_of_prefix (left.trans inside) right with shorter | shorter <;>
      simp_all [List.prefix_append_right_inj]
  exact ⟨apart other left right, apart (Ne.symm other) right left⟩

namespace Repository

variable {r : Repository}

theorem leavesBelow_apart (tidy : r.Tidy) {fuel : Nat} {path : List String} {id : Id}
    {leaves : List Leaf} (found : r.leavesBelow path fuel id = .ok leaves) :
    leaves.Pairwise Leaf.Apart ∧ ∀ l ∈ leaves, ∃ name, path ++ [name] <+: l.path := by
  induction fuel generalizing path id leaves with
  | zero => rw [leavesBelow] at found; cases found
  | succ fuel ih =>
    obtain ⟨entries, there, among⟩ := leavesBelow_tree found
    have once := tidy id entries there
    -- leaves of one entry are apart by `ih`, those of two entries by the names of these
    clear there found
    suffices each : leaves.Pairwise Leaf.Apart ∧
        ∀ l ∈ leaves, ∃ e ∈ entries, path ++ [e.name] <+: l.path from
      ⟨each.1, fun l member => by
        obtain ⟨e, _, lies⟩ := each.2 l member
        exact ⟨e.name, lies⟩⟩
    induction entries generalizing leaves with
    | nil =>
      rw [leavesAmong] at among
      cases among
      exact ⟨.nil, fun l member => by cases member⟩
    | cons e rest deeper =>
      obtain ⟨here, others, one, later, rfl⟩ := leavesAmong_ok among
      obtain ⟨fresh, once⟩ := List.nodup_cons.mp once
      obtain ⟨among, below⟩ := deeper later once
      have own : here.Pairwise Leaf.Apart ∧ ∀ l ∈ here, path ++ [e.name] <+: l.path := by
        unfold leavesOf at one
        split at one
        next =>
          obtain ⟨apart, inside⟩ := ih one
          refine ⟨apart, fun l member => ?_⟩
          obtain ⟨name, lies⟩ := inside l member
          exact (List.prefix_append _ _).trans lies
        next =>
          cases one
          refine ⟨List.pairwise_singleton .., fun l member => ?_⟩
          obtain rfl := List.mem_singleton.mp member
          exact List.prefix_rfl
      refine ⟨List.pairwise_append.mpr ⟨own.1, among, fun a left b right => ?_⟩, fun l member => ?_⟩
      · obtain ⟨other, member, lies⟩ := below b right
        have differs : e.name ≠ other.name := fun same =>
          fresh (same ▸ List.mem_map_of_mem member)
        exact Leaf.apart_of_names differs (own.2 a left) lies
      · rcases List.mem_append.mp member with first | second
        · exact ⟨e, List.mem_cons_self, own.2 l first⟩
        · obtain ⟨other, among, lies⟩ := below l second
          exact ⟨other, List.mem_cons_of_mem _ among, lies⟩

theorem leaves_apart (tidy : r.Tidy) {tree : Id} {leaves : List Leaf}
    (found : r.leaves tree = .ok leaves) :
    leaves.Pairwise Leaf.Apart ∧ ∀ l ∈ leaves, l.path ≠ [] := by
  obtain ⟨apart, inside⟩ := leavesBelow_apart tidy found
  refine ⟨apart, fun l member empty => ?_⟩
  obtain ⟨name, lies⟩ := inside l member
  simp [empty] at lies

theorem nodeOf_plain {l : Leaf} {node : Node} (made : r.nodeOf l = .ok node) :
    node.IsPlain ∧ (l.kind = .module -> node = .dir []) := by
  unfold nodeOf at made
  split at made
  next module =>
    cases made
    exact ⟨.inr rfl, fun _ => rfl⟩
  next other =>
    split at made
    next data there =>
      split at made <;>
        · cases made
          exact ⟨.inl rfl, fun module => absurd module other⟩
    next => cases made

theorem checkout_ok {tree : Id} {tracked leaves : List Leaf} {files after : Node}
    (ran : r.checkout tree tracked files = .ok (leaves, after)) :
    r.leaves tree = .ok leaves ∧ (∀ l ∈ leaves, l.isSafe = true) ∧ ∃ nodes,
      leaves.mapM r.nodeOf = .ok nodes ∧ after = replaceFiles tracked (leaves.zip nodes) files := by
  unfold checkout at ran
  obtain ⟨found, there, ran⟩ := bind_ok ran
  split at ran
  next => cases ran
  next safe =>
    obtain ⟨nodes, made, ran⟩ := bind_ok ran
    cases ran
    refine ⟨there, fun l member => ?_, nodes, made, rfl⟩
    simpa using List.find?_eq_none.mp safe l member

theorem checkout_of {tree : Id} {tracked leaves : List Leaf} {nodes : List Node} {files : Node}
    (found : r.leaves tree = .ok leaves) (safe : ∀ l ∈ leaves, l.isSafe = true)
    (made : leaves.mapM r.nodeOf = .ok nodes) : r.checkout tree tracked files =
      .ok (leaves, replaceFiles tracked (leaves.zip nodes) files) := by
  have all : (leaves.find? fun l => !l.isSafe) = none := by simpa using safe
  unfold checkout
  rw [found]
  simp only [bind, Except.bind, all, made]
  rfl

theorem Within.checkout {s : Repository} (within : r.Within s) {tree : Id}
    {tracked : List Leaf} {files : Node} {done : List Leaf × Node}
    (ran : r.checkout tree tracked files = .ok done) :
    s.checkout tree tracked files = .ok done := by
  obtain ⟨leaves, after⟩ := done
  obtain ⟨found, safe, nodes, made, rfl⟩ := checkout_ok ran
  exact checkout_of (within.leaves found) safe (mapM_mono (fun _ _ => within.nodeOf) made)

theorem checkout_badPath {tree : Id} {tracked : List Leaf} {files : Node} {path : String}
    (refused : r.checkout tree tracked files = .error (.badPath path)) :
    ∃ leaves, r.leaves tree = .ok leaves ∧ ∃ l ∈ leaves, l.isSafe = false := by
  unfold checkout at refused
  rcases bind_error refused with missing | ⟨leaves, there, refused⟩
  · obtain ⟨lost, other⟩ := leavesBelow_error missing
    cases other
  · refine ⟨leaves, there, ?_⟩
    split at refused
    next l bad => exact ⟨l, List.mem_of_find?_eq_some bad, by simpa using List.find?_some bad⟩
    next =>
      rcases bind_error refused with unmade | ⟨_, _, refused⟩
      · obtain ⟨l, _, failed⟩ := mapM_error unmade
        unfold nodeOf at failed
        split at failed
        next => cases failed
        next =>
          split at failed
          next => split at failed <;> cases failed
          next => cases failed
      · cases refused

end Repository

section Files

variable {items : List (Leaf × Node)} {files : Node}

theorem file?_place_self (item : Leaf × Node)
    (modules : item.1.kind = .module -> item.2 = .dir []) (files : Node) :
    (place files item).file? item.1.path = if isFile item.2 then some item.2 else none := by
  unfold place
  split
  next kept =>
    rw [Bool.and_eq_true, decide_eq_true_eq] at kept
    obtain ⟨node, here, dir⟩ := (Option.any_eq_true _ _).mp kept.2
    rw [modules kept.1, Node.file?, here]
    cases node with
    | dir entries => rfl
    | _ => cases dir
  next => exact Node.file?_put_self ..

theorem file?_place_apart {item : Leaf × Node} {path : List String}
    (above : ¬ path <+: item.1.path) (below : ¬ item.1.path <+: path) (files : Node) :
    (place files item).file? path = files.file? path := by
  unfold place
  split
  next => rfl
  next => exact Node.file?_put_apart above below files item.2

theorem file?_foldl_place_apart {path : List String}
    (apart : ∀ item ∈ items, ¬ path <+: item.1.path ∧ ¬ item.1.path <+: path) (files : Node) :
    (items.foldl place files).file? path = files.file? path := by
  induction items generalizing files with
  | nil => rfl
  | cons item rest ih =>
    obtain ⟨above, below⟩ := apart item List.mem_cons_self
    rw [List.foldl_cons, ih fun other member => apart other (List.mem_cons_of_mem _ member),
      file?_place_apart above below]

theorem file?_foldl_place (apart : items.Pairwise fun a b => a.1.Apart b.1)
    (plain : ∀ item ∈ items, item.2.IsPlain ∧ (item.1.kind = .module -> item.2 = .dir []))
    (files : Node) :
    (∀ item ∈ items, (items.foldl place files).file? item.1.path =
        if isFile item.2 then some item.2 else none) ∧
      ∀ path, (items.foldl place files).file? path ≠ none ->
        (∃ item ∈ items, item.1.path = path) ∨ files.file? path ≠ none := by
  induction items generalizing files with
  | nil => exact ⟨nofun, fun _ present => .inr present⟩
  | cons item rest ih =>
    obtain ⟨away, apart⟩ := List.pairwise_cons.mp apart
    obtain ⟨own, modules⟩ := plain item List.mem_cons_self
    obtain ⟨each, present⟩ := ih apart
      (fun other member => plain other (List.mem_cons_of_mem _ member)) (place files item)
    refine ⟨fun other member => ?_, fun path there => ?_⟩
    · rw [List.foldl_cons]
      rcases List.mem_cons.mp member with rfl | later
      · rw [file?_foldl_place_apart away, file?_place_self other modules]
      · exact each other later
    · rcases present path there with ⟨other, member, same⟩ | before
      · exact .inl ⟨other, List.mem_cons_of_mem _ member, same⟩
      · unfold place at before
        split at before
        next => exact .inr before
        next =>
          rcases Node.file?_put_some own before with same | before
          · exact .inl ⟨item, List.mem_cons_self, same.symm⟩
          · exact .inr before

theorem file?_foldl_removeFile {gone : List Leaf} (inside : ∀ l ∈ gone, l.path ≠ [])
    (files : Node) (path : List String) :
    (gone.foldl (fun files l => removeFile l.path files) files).file? path =
      if ∃ l ∈ gone, l.path = path then none else files.file? path := by
  induction gone generalizing files with
  | nil => simp
  | cons l rest ih =>
    rw [List.foldl_cons, ih fun other member => inside other (List.mem_cons_of_mem _ member),
      Node.file?_removeFile _ _ _ (inside l List.mem_cons_self)]
    by_cases own : path = l.path
    next => simp [own]
    next => simp [own, Ne.symm own]

-- The files that are written are there, those that were tracked are gone, and the others stay where
-- nothing that is written lies in their way.
theorem file?_replaceFiles {tracked : List Leaf}
    (apart : items.Pairwise fun a b => a.1.Apart b.1)
    (plain : ∀ item ∈ items, item.2.IsPlain ∧ (item.1.kind = .module -> item.2 = .dir []))
    (inside : ∀ l ∈ tracked, l.path ≠ []) (files : Node) :
    (∀ item ∈ items, (replaceFiles tracked items files).file? item.1.path =
        if isFile item.2 then some item.2 else none) ∧
      (∀ path, (replaceFiles tracked items files).file? path ≠ none ->
        (∃ item ∈ items, item.1.path = path) ∨
          files.file? path ≠ none ∧ ∀ l ∈ tracked, l.path ≠ path) ∧
      ∀ path, (∀ l ∈ tracked, l.path ≠ path) ->
        (∀ item ∈ items, ¬ path <+: item.1.path ∧ ¬ item.1.path <+: path) ->
        (replaceFiles tracked items files).file? path = files.file? path := by
  let gone := tracked.filter fun l => !items.any fun item => item.1.path == l.path
  let left := gone.foldl (fun files l => removeFile l.path files) files
  have whole : replaceFiles tracked items files = items.foldl place left := rfl
  have removed : ∀ path, left.file? path =
      if ∃ l ∈ gone, l.path = path then none else files.file? path :=
    file?_foldl_removeFile (fun l member => inside l (List.mem_of_mem_filter member)) files
  obtain ⟨each, present⟩ := file?_foldl_place apart plain left
  rw [whole]
  refine ⟨each, fun path there => ?_, fun path untracked away => ?_⟩
  · rcases present path there with written | still
    · exact .inl written
    · rw [removed] at still
      split at still
      next => exact absurd rfl still
      next kept =>
        by_cases own : ∃ item ∈ items, item.1.path = path
        next => exact .inl own
        next =>
          refine .inr ⟨still, fun l member same => kept ⟨l, List.mem_filter.mpr ⟨member, ?_⟩, same⟩⟩
          simpa [same] using own
  · rw [file?_foldl_place_apart away, removed, if_neg]
    rintro ⟨l, member, same⟩
    exact untracked l (List.mem_of_mem_filter member) same

end Files

def Repository.fileAt (r : Repository) (leaves : List Leaf) (path : List String) : Option Node :=
  (leaves.find? fun l => l.path = path).bind fun l => (r.nodeOf l).toOption.filter isFile

namespace Workspace

/-- The tracked files are those of the commit, with its contents, and there are no others. -/
structure Shows (w : Workspace) (commit : Commit) : Prop where
  leaves : w.repository.leaves commit.tree = .ok w.tracked
  nodes : ∀ l ∈ w.tracked, ∃ node, w.repository.nodeOf l = .ok node
  safe : ∀ l ∈ w.tracked, l.isSafe = true
  files : ∀ path, w.files.file? path = w.repository.fileAt w.tracked path

structure Clean (w : Workspace) : Prop where
  inside : ∀ l ∈ w.tracked, l.path ≠ []
  known : ∀ path, w.files.file? path ≠ none -> ∃ l ∈ w.tracked, l.path = path

variable {w next : Workspace} {commit : Commit}

theorem Shows.clean (shown : w.Shows commit) (tidy : w.repository.Tidy) : w.Clean := by
  refine ⟨(Repository.leaves_apart tidy shown.leaves).2, fun path there => ?_⟩
  rw [shown.files, Repository.fileAt] at there
  cases found : w.tracked.find? fun l => l.path = path with
  | none => simp [found] at there
  | some l => exact ⟨l, List.mem_of_find?_eq_some found, by simpa using List.find?_some found⟩

theorem Shows.within (shown : w.Shows commit) (within : w.repository.Within next.repository)
    (tracked : next.tracked = w.tracked)
    (files : ∀ path, next.files.file? path = w.files.file? path) : next.Shows commit := by
  refine ⟨tracked ▸ within.leaves shown.leaves, fun l member => ?_, tracked ▸ shown.safe,
    fun path => ?_⟩
  · obtain ⟨node, made⟩ := shown.nodes l (tracked ▸ member)
    exact ⟨node, within.nodeOf made⟩
  · rw [files, shown.files, tracked, Repository.fileAt, Repository.fileAt]
    cases found : w.tracked.find? fun l => l.path = path with
    | none => rfl
    | some l =>
      obtain ⟨node, made⟩ := shown.nodes l (List.mem_of_find?_eq_some found)
      rw [Option.bind_some, Option.bind_some, made, within.nodeOf made]

theorem checkout_parts (ran : w.checkout commit = .ok next) :
    w.isBare = false ∧ next.repository = w.repository ∧ next.isBare = w.isBare ∧
      w.repository.checkout commit.tree w.tracked w.files = .ok (next.tracked, next.files) := by
  unfold checkout at ran
  split at ran
  next => cases ran
  next own =>
    obtain ⟨⟨tracked, files⟩, wrote, ran⟩ := bind_ok ran
    cases ran
    exact ⟨by simpa using own, rfl, rfl, wrote⟩

theorem leaves_of_badPath {path : String} (refused : w.checkout commit = .error (.badPath path)) :
    ∃ leaves, w.repository.leaves commit.tree = .ok leaves ∧ ∃ l ∈ leaves, l.isSafe = false := by
  unfold checkout at refused
  split at refused
  next => cases refused
  next =>
    rcases bind_error refused with refused | ⟨_, _, refused⟩
    · exact Repository.checkout_badPath refused
    · cases refused

structure Replaced (w next : Workspace) (commit : Commit) : Prop where
  leaves : next.repository.leaves commit.tree = .ok next.tracked
  safe : ∀ l ∈ next.tracked, l.isSafe = true
  written : ∀ l ∈ next.tracked, ∃ node, next.repository.nodeOf l = .ok node ∧
    next.files.file? l.path = if isFile node then some node else none
  only : ∀ path, next.files.file? path ≠ none -> (∃ l ∈ next.tracked, l.path = path) ∨
    w.files.file? path ≠ none ∧ ∀ l ∈ w.tracked, l.path ≠ path
  kept : ∀ path, (∀ l ∈ w.tracked, l.path ≠ path) ->
    (∀ l ∈ next.tracked, ¬ path <+: l.path ∧ ¬ l.path <+: path) ->
    next.files.file? path = w.files.file? path

theorem replaced_of_checkout (inside : ∀ l ∈ w.tracked, l.path ≠ []) (tidy : w.repository.Tidy)
    (ran : w.checkout commit = .ok next) : w.Replaced next commit := by
  obtain ⟨_, same, _, wrote⟩ := checkout_parts ran
  obtain ⟨leaves, safe, nodes, made, files⟩ := Repository.checkout_ok wrote
  obtain ⟨firsts, each⟩ := mapM_ok made
  have apart : (next.tracked.zip nodes).Pairwise fun a b => a.1.Apart b.1 :=
    List.pairwise_map.mp (firsts.symm ▸ (Repository.leaves_apart tidy leaves).1)
  obtain ⟨written, only, kept⟩ := file?_replaceFiles apart
    (fun item member => Repository.nodeOf_plain (each item member)) inside w.files
  have leafOf : ∀ item ∈ next.tracked.zip nodes, item.1 ∈ next.tracked := fun item among =>
    firsts ▸ List.mem_map_of_mem among
  refine ⟨same ▸ leaves, safe, fun l member => ?_, fun path there => ?_,
    fun path untracked away => ?_⟩
  · rw [← firsts] at member
    obtain ⟨item, among, rfl⟩ := List.mem_map.mp member
    exact ⟨item.2, same ▸ each item among, files ▸ written item among⟩
  · rw [files] at there
    refine (only path there).imp_left ?_
    rintro ⟨item, among, lies⟩
    exact ⟨item.1, leafOf item among, lies⟩
  · rw [files]
    exact kept path untracked fun item among => away item.1 (leafOf item among)

theorem Replaced.shows (replaced : w.Replaced next commit) (clean : w.Clean) :
    next.Shows commit := by
  refine ⟨replaced.leaves, fun l member => ?_, replaced.safe, fun path => ?_⟩
  · obtain ⟨node, made, _⟩ := replaced.written l member
    exact ⟨node, made⟩
  · rw [Repository.fileAt]
    cases found : next.tracked.find? fun l => l.path = path with
    | none =>
      by_contra some
      rcases replaced.only path some with ⟨l, member, lies⟩ | ⟨there, untracked⟩
      · simpa [lies] using List.find?_eq_none.mp found l member
      · obtain ⟨l, member, lies⟩ := clean.known path there
        exact untracked l member lies
    | some l =>
      obtain rfl : l.path = path := by simpa using List.find?_some found
      obtain ⟨node, made, here⟩ := replaced.written l (List.mem_of_find?_eq_some found)
      rw [here, Option.bind_some, made]
      cases file : isFile node <;> simp [Except.toOption, Option.filter, file]

theorem shows_of_checkout (clean : w.Clean) (tidy : w.repository.Tidy)
    (ran : w.checkout commit = .ok next) : next.Shows commit :=
  (replaced_of_checkout clean.inside tidy ran).shows clean

end Workspace

end FleetSearch.Git
