import FleetSearch.Proofs.Checkout.Listing
import FleetSearch.Proofs.Text.Order
import Mathlib.Data.List.Nodup

set_option autoImplicit false

namespace FleetSearch.Checkout

open FleetSearch.Disk FleetSearch.Disk.Path FleetSearch.Text

variable {A : Type} {entries : List (String × Node)} {tree : Node} {names others before : List String}
  {data : ByteArray} {dots : Bool} {dir : String}

theorem insertByName_increasing {name : String} {a : A} {sorted : List (String × A)}
    (apart : ∀ e ∈ sorted, e.1 ≠ name) (ordered : sorted.Pairwise fun e f => e.1 < f.1) :
    (insertByName name a sorted).Pairwise fun e f => e.1 < f.1 := by
  induction sorted with
  | nil => simp [insertByName]
  | cons first rest ih =>
    obtain ⟨behind, later⟩ := List.pairwise_cons.mp ordered
    rw [insertByName]
    split
    next below =>
      have inside := ih (fun e member => apart e (List.mem_cons_of_mem _ member)) later
      refine List.pairwise_cons.mpr ⟨fun e member => ?_, inside⟩
      rcases mem_insertByName.mp member with rfl | old
      · exact below
      · exact behind e old
    next above =>
      have less : name < first.1 := lt_of_not_lt above (apart first List.mem_cons_self)
      refine List.pairwise_cons.mpr ⟨fun e member => ?_, ordered⟩
      rcases List.mem_cons.mp member with rfl | old
      · exact less
      · exact String.lt_trans less (behind e old)

theorem branches_increasing (once : (entries.map Prod.fst).Nodup) :
    (branches before entries).Pairwise fun e f => e.1 < f.1 := by
  induction entries with
  | nil => simp [branches]
  | cons entry rest ih =>
    rw [List.map_cons, List.nodup_cons] at once
    rw [branches]
    split
    next => exact ih once.2
    next =>
      refine insertByName_increasing (fun e member same => ?_) (ih once.2)
      obtain ⟨other, among, _, rfl⟩ := mem_branches.mp member
      exact once.1 (same ▸ List.mem_map_of_mem among)

def Ahead (f g : List String × ByteArray) : Prop :=
  List.Lex (· < ·) f.1 g.1

theorem lex_append {names others : List String} (less : List.Lex (· < ·) names others)
    (before : List String) : List.Lex (· < ·) (before ++ names) (before ++ others) := by
  induction before with
  | nil => exact less
  | cons name rest ih => exact .cons ih

theorem filesBelow_increasing (before : List String) (tidy : tree.IsTidy) :
    (filesBelow before tree).Pairwise Ahead := by
  induction tidy generalizing before with
  | file data => simp [filesBelow]
  | link target => simp [filesBelow]
  | @dir entries once _ below ih =>
    rw [filesBelow, List.pairwise_flatMap]
    constructor
    · intro branch member
      obtain ⟨e, among, _, rfl⟩ := mem_branches.mp member
      exact ih e among _
    · -- files of two branches differ in order at the names of the branches
      refine (branches_increasing once).imp_of_mem fun {one two} member further less f inside g => ?_
      obtain ⟨e, among, _, rfl⟩ := mem_branches.mp member
      obtain ⟨e', among', _, rfl⟩ := mem_branches.mp further
      intro inside'
      obtain ⟨rest, place, _⟩ := (mem_filesBelow (below e among)).mp inside
      obtain ⟨rest', place', _⟩ := (mem_filesBelow (below e' among')).mp inside'
      rw [List.append_assoc] at place place'
      rw [Ahead, place, place']
      exact lex_append (.rel less) before

theorem Ahead.irrefl (f : List String × ByteArray) : ¬ Ahead f f := by
  intro ahead
  exact List.lt_irrefl f.1 ahead

theorem Ahead.asymm {f g : List String × ByteArray} (ahead : Ahead f g) : ¬ Ahead g f :=
  fun back => List.lt_asymm ahead back

theorem filesBelow_unique {other : Node} (tidy : tree.IsTidy) (again : other.IsTidy)
    (same : ∀ names data, Regular tree names data ↔ Regular other names data) :
    filesBelow [] tree = filesBelow [] other := by
  have ordered := filesBelow_increasing [] tidy
  have ordered' := filesBelow_increasing [] again
  have once : ∀ {files : List (List String × ByteArray)}, files.Pairwise Ahead -> files.Nodup :=
    fun ordered => ordered.imp fun ahead => by
      rintro rfl
      exact Ahead.irrefl _ ahead
  have members : ∀ file, file ∈ filesBelow [] tree ↔ file ∈ filesBelow [] other := by
    intro file
    simp [mem_filesBelow tidy, mem_filesBelow again, same]
  have perm := (List.perm_ext_iff_of_nodup (once ordered) (once ordered')).mpr members
  exact perm.eq_of_pairwise (fun f g _ _ ahead back => absurd back ahead.asymm) ordered ordered'

def shownPath (names : List String) : String :=
  "/".intercalate names

theorem shownPath_cons (name : String) (some : names ≠ []) :
    (shownPath (name :: names)).toList = name.toList ++ '/' :: (shownPath names).toList := by
  rw [shownPath, String.intercalate_cons_of_ne_nil some, String.toList_append, String.toList_append,
    List.append_assoc]
  rfl

theorem pieces_shownPath (some : names ≠ []) (fit : ∀ name ∈ names, IsFileName name) :
    pieces (shownPath names).toList = names.map String.toList := by
  induction names with
  | nil => exact absurd rfl some
  | cons name rest ih =>
    have own := pieces_name name.toList (fit name List.mem_cons_self).plain
    by_cases last : rest = []
    next =>
      subst last
      rw [shownPath, String.intercalate_singleton, own]
      rfl
    next =>
      have later := ih last fun name member => fit name (List.mem_cons_of_mem _ member)
      rw [shownPath_cons name last, pieces_append, later, own]
      rfl

theorem notMem_shownPath {c : Char} (apart : c ≠ '/') (each : ∀ name ∈ names, c ∉ name.toList) :
    c ∉ (shownPath names).toList := by
  induction names with
  | nil => simp [shownPath]
  | cons name rest ih =>
    have own := each name List.mem_cons_self
    have later := ih fun name member => each name (List.mem_cons_of_mem _ member)
    by_cases last : rest = []
    next => simpa [last, shownPath] using own
    next =>
      rw [shownPath_cons name last, List.mem_append, List.mem_cons]
      simp [own, later, apart]

theorem filled_shownPath (fit : ∀ name ∈ names, IsFileName name) :
    filled (shownPath names).toList = names.map String.toList := by
  induction names with
  | nil => rfl
  | cons name rest ih =>
    have own := (fit name List.mem_cons_self).filled
    by_cases last : rest = []
    next =>
      subst last
      rw [shownPath, String.intercalate_singleton, own]
      rfl
    next =>
      have later := ih fun name member => fit name (List.mem_cons_of_mem _ member)
      rw [shownPath_cons name last, filled_append, later, own]
      rfl

theorem shownPath_injective (fit : ∀ name ∈ names, IsFileName name)
    (fits : ∀ name ∈ others, IsFileName name) (same : shownPath names = shownPath others) :
    names = others := by
  have pieces := congrArg (fun p : String => filled p.toList) same
  simp only [filled_shownPath fit, filled_shownPath fits] at pieces
  exact (List.map_inj_right fun _ _ => String.ext).mp pieces

theorem shownName_eq (plain : ∀ name ∈ names, '\\' ∉ name.toList) :
    shownName names = shownPath names := by
  have whole := notMem_shownPath (by decide) plain
  have kept : (shownPath names).toList.map (fun c => if c = '\\' then '/' else c) =
      (shownPath names).toList.map id := by
    refine List.map_congr_left fun c member => if_neg ?_
    rintro rfl
    exact whole member
  rw [shownName, ← shownPath, kept, List.map_id, String.ofList_toList]

def Before (path later : String) : Prop :=
  List.Lex (fun piece other => bytesOf piece < bytesOf other) (pieces path.toList)
    (pieces later.toList)

theorem before_of_lex (fit : ∀ name ∈ names, IsFileName name)
    (fits : ∀ name ∈ others, IsFileName name) (some : names ≠ []) (more : others ≠ [])
    (less : List.Lex (· < ·) names others) : Before (shownPath names) (shownPath others) := by
  rw [Before, pieces_shownPath some fit, pieces_shownPath more fits]
  clear fit fits some more
  induction less with
  | nil => exact .nil
  | cons _ ih => exact .cons ih
  | rel less => exact .rel (bytesOf_lt_of_lt less)

-- Why a file is not searched: first its names tell, then its own name, then its size.
def verdict (dots : Bool) (names : List String) (size : Nat) : Option Exclusion :=
  if dots = true ∧ ∃ name ∈ names, name.toList.head? = some '.' then some .dotFile
  else if isTextName (names.getLast?.getD "") = false then some .notText
  else if largestFile < size then some .tooLarge
  else none

theorem verdict_eq (some : names ≠ []) (fit : ∀ name ∈ names, IsFileName name)
    (plain : ∀ name ∈ names, '\\' ∉ name.toList) (dots : Bool) (size : Nat) :
    reason? dots names size = verdict dots names size := by
  have hidden : isHidden (shownName names) = true ↔
      ∃ name ∈ names, name.toList.head? = Option.some '.' := by
    rw [isHidden, shownName_eq plain, pieces_shownPath some fit]
    simp
  simp only [reason?, exclusion, verdict, Bool.and_eq_true, hidden, Bool.not_eq_true']

def Listing.shown (l : Listing) : List String :=
  l.files.map SearchFile.name ++ l.excluded.map Excluded.name

/-- The regular files of a tree, each in its place on one of two ordered lists. -/
structure IsPartition (tree : Node) (dir : String) (dots : Bool) (l : Listing) : Prop where
  once : ∀ names data, Regular tree names data -> l.shown.count (shownPath names) = 1
  -- neither links nor directories, nor what lies below an ignored directory
  never : ∀ names node, tree.get? names = some node -> (∀ data, ¬ Regular tree names data) ->
    shownPath names ∉ l.shown
  only : ∀ shown ∈ l.shown, ∃ names data, Regular tree names data ∧ shown = shownPath names
  placed : ∀ names data, Regular tree names data ->
    match verdict dots names data.size with
    | some why => { name := shownPath names, why } ∈ l.excluded
    | none => { name := shownPath names, path := pathTo dir names } ∈ l.files
  increasing : (l.files.map SearchFile.name).Pairwise Before ∧
    (l.excluded.map Excluded.name).Pairwise Before

theorem list_shown (dots : Bool) (dir : String) {files : List (List String × ByteArray)}
    (named : ∀ file ∈ files, file.1 ≠ [] ∧ ∀ name ∈ file.1, IsFileName name) :
    (list dots dir files).files.map SearchFile.name =
        (files.filter fun file => (reason? dots file.1 file.2.size).isNone).map
          (fun file => shownName file.1) ∧
      (list dots dir files).excluded.map Excluded.name =
        (files.filter fun file => !(reason? dots file.1 file.2.size).isNone).map
          (fun file => shownName file.1) := by
  induction files with
  | nil => simp [list]
  | cons file rest ih =>
    obtain ⟨searched, excluded⟩ := ih fun other member => named other (List.mem_cons_of_mem _ member)
    obtain ⟨there, fit⟩ := named file List.mem_cons_self
    have first : list dots dir (file :: rest) = Listing.add dots dir file (list dots dir rest) := rfl
    rw [first, add_eq fit there]
    cases judged : reason? dots file.1 file.2.size with
    | none => simp [judged, searched, excluded]
    | some why => simp [judged, searched, excluded]

theorem shown_perm (dots : Bool) (dir : String) {files : List (List String × ByteArray)}
    (named : ∀ file ∈ files, file.1 ≠ [] ∧ ∀ name ∈ file.1, IsFileName name) :
    (list dots dir files).shown.Perm (files.map fun file => shownName file.1) := by
  obtain ⟨searched, excluded⟩ := list_shown dots dir named
  rw [Listing.shown, searched, excluded, ← List.map_append]
  exact (List.filter_append_perm _ files).map _

section

variable {v : Volume}

def LacksBackslash (tree : Node) : Prop :=
  ∀ names node, tree.get? names = some node -> ∀ name ∈ names, '\\' ∉ name.toList

theorem mem_below (tidy : tree.IsTidy) {file : List String × ByteArray} :
    file ∈ filesBelow [] tree ↔ Regular tree file.1 file.2 := by
  simp [mem_filesBelow tidy]

theorem named_below (tidy : (Node.dir entries).IsTidy) :
    ∀ file ∈ filesBelow [] (.dir entries), file.1 ≠ [] ∧ ∀ name ∈ file.1, IsFileName name := by
  intro file member
  have there := ((mem_below tidy).mp member).there
  refine ⟨fun none => ?_, tidy.fileNames there⟩
  simp [none, Node.get?] at there

theorem shown_increasing (tidy : (Node.dir entries).IsTidy)
    (plain : LacksBackslash (.dir entries)) (p : List String × ByteArray -> Bool) :
    (((filesBelow [] (.dir entries)).filter p).map fun file => shownName file.1).Pairwise Before := by
  rw [List.pairwise_map]
  have ordered := (filesBelow_increasing [] tidy).filter p
  refine ordered.imp_of_mem fun {f g} member further ahead => ?_
  have inside := List.mem_of_mem_filter member
  have inside' := List.mem_of_mem_filter further
  have there := ((mem_below tidy).mp inside).there
  have there' := ((mem_below tidy).mp inside').there
  obtain ⟨some, fit⟩ := named_below tidy f inside
  obtain ⟨more, fits⟩ := named_below tidy g inside'
  rw [shownName_eq (plain _ _ there), shownName_eq (plain _ _ there')]
  exact before_of_lex fit fits some more ahead

theorem shown_once (tidy : (Node.dir entries).IsTidy) (plain : LacksBackslash (.dir entries)) :
    ((filesBelow [] (.dir entries)).map fun file => shownName file.1).Nodup := by
  rw [List.Nodup, List.pairwise_map]
  refine (filesBelow_increasing [] tidy).imp_of_mem fun {f g} member further ahead same => ?_
  have there := ((mem_below tidy).mp member).there
  have there' := ((mem_below tidy).mp further).there
  rw [shownName_eq (plain _ _ there), shownName_eq (plain _ _ there')] at same
  have names := shownPath_injective (tidy.fileNames there) (tidy.fileNames there') same
  rw [Ahead, names] at ahead
  exact List.lt_irrefl g.1 ahead

/-- A walk puts every regular file that lies in no ignored directory on one of its lists, and
nothing else; the lists are ordered, and the same for all trees with these files. -/
theorem walk_partitions (v : Volume) (dir : String) (dots : Bool) (entries : List (String × Node))
    (found : v.find dir = .ok (.dir entries)) (tidy : (Node.dir entries).IsTidy)
    (plain : LacksBackslash (.dir entries)) :
    IsPartition (.dir entries) dir dots (walk v dir dots) ∧
      ∀ (w : Volume) (others : List (String × Node)), w.find dir = .ok (.dir others) ->
        (Node.dir others).IsTidy ->
        (∀ names data, Regular (.dir entries) names data ↔ Regular (.dir others) names data) ->
        walk w dir dots = walk v dir dots := by
  have perm := shown_perm dots dir (named_below tidy)
  have searched := (list_shown dots dir (named_below tidy)).1
  have excluded := (list_shown dots dir (named_below tidy)).2
  have shows : ∀ shown, shown ∈ (walk v dir dots).shown ↔
      ∃ names data, Regular (.dir entries) names data ∧ shown = shownPath names := by
    intro shown
    rw [walk_dir found, perm.mem_iff, List.mem_map]
    constructor
    · rintro ⟨file, member, rfl⟩
      have regular := (mem_below tidy).mp member
      exact ⟨file.1, file.2, regular, shownName_eq (plain _ _ regular.there)⟩
    · rintro ⟨names, data, regular, rfl⟩
      exact ⟨(names, data), (mem_below tidy).mpr regular, shownName_eq (plain _ _ regular.there)⟩
  refine ⟨⟨?_, ?_, fun shown => (shows shown).mp, ?_, ?_⟩, ?_⟩
  · intro names data regular
    have member := (shows (shownPath names)).mpr ⟨names, data, regular, rfl⟩
    rw [walk_dir found] at member ⊢
    rw [perm.count_eq]
    exact List.count_eq_one_of_mem (shown_once tidy plain) (perm.mem_iff.mp member)
  · intro names node there unlisted member
    obtain ⟨other, data, regular, same⟩ := (shows _).mp member
    obtain rfl := shownPath_injective (tidy.fileNames there) (tidy.fileNames regular.there) same
    exact unlisted data regular
  · intro names data regular
    obtain ⟨some, fit⟩ := named_below tidy (names, data) ((mem_below tidy).mpr regular)
    have own := plain _ _ regular.there
    obtain ⟨listed, kept⟩ := walk_lists found tidy dots
    rw [← verdict_eq some fit own, ← shownName_eq own]
    split
    next why judged => exact (listed _).mpr ⟨names, data, why, regular, judged, rfl⟩
    next judged => exact (kept _).mpr ⟨names, data, regular, judged, rfl⟩
  · rw [walk_dir found, searched, excluded]
    exact ⟨shown_increasing tidy plain _, shown_increasing tidy plain _⟩
  · intro w others again tidily same
    rw [walk_dir found, walk_dir again, filesBelow_unique tidy tidily same]

end

theorem LacksBackslash.of_leaf {leaf : Node} (single : leaf.isDir = false) :
    LacksBackslash leaf := by
  intro names node there
  cases names with
  | nil => simp
  | cons name rest => cases leaf <;> simp [Node.get?, Node.child?, Node.isDir] at there single

theorem LacksBackslash.of_entries (named : ∀ e ∈ entries, '\\' ∉ e.1.toList)
    (below : ∀ e ∈ entries, LacksBackslash e.2) : LacksBackslash (.dir entries) := by
  intro names node there
  cases names with
  | nil => simp
  | cons name rest =>
    rw [Node.get?] at there
    obtain ⟨next, found, later⟩ := Option.bind_eq_some_iff.mp there
    have member := lookup_mem found
    exact List.forall_mem_cons.mpr ⟨named _ member, below _ member rest node later⟩

def scatteredTree : List (String × Node) :=
  [("b.txt", .file "b".toUTF8), ("a-b", .dir [("x.rs", .file "x".toUTF8)]), ("l", .link "b.txt"),
    (".git", .dir [("z.rs", .file "z".toUTF8)]),
    ("a", .dir [("y.rs", .file "y".toUTF8), (".c.rs", .file "c".toUTF8)])]

-- The directory `a` comes before `a-b`, though its files do not if paths are compared as texts.
theorem scattered_partition :
    let v : Volume := { root := .dir [("r", .dir scatteredTree)] }
    IsPartition (.dir scatteredTree) "r" true (walk v "r" true) ∧
      (walk v "r" true).files.map SearchFile.name = ["a/y.rs", "a-b/x.rs", "b.txt"] ∧
      (walk v "r" true).excluded = [{ name := "a/.c.rs", why := .dotFile }] := by
  intro v
  have tidy : (Node.dir scatteredTree).IsTidy := Node.tidy_of_isTidy _ (by decide +kernel)
  have plain : LacksBackslash (.dir scatteredTree) := by
    have file : ∀ data, LacksBackslash (.file data) := fun data => .of_leaf rfl
    have link : ∀ target, LacksBackslash (.link target) := fun target => .of_leaf rfl
    refine .of_entries (by decide) ?_
    simp only [scatteredTree, List.forall_mem_cons, List.not_mem_nil, false_implies, implies_true,
      and_true]
    refine ⟨file _, .of_entries (by decide) ?_, link _, .of_entries (by decide) ?_,
      .of_entries (by decide) ?_⟩ <;> simp [file]
  exact ⟨(walk_partitions v "r" true scatteredTree rfl tidy plain).1, by decide +kernel,
    by decide +kernel⟩

end FleetSearch.Checkout
