import FleetSearch.Proofs.Checkout.Partition
import FleetSearch.Proofs.Checkout.Phases

set_option autoImplicit false

namespace FleetSearch.Checkout

open FleetSearch.Disk FleetSearch.Disk.Path FleetSearch.Search

variable {entries : List (String × Node)} {names others : List String} {data : ByteArray}
  {v : Volume} {dir : String} {dots : Bool}

theorem length_shownName (names : List String) :
    (shownName names).toList.length = (shownPath names).toList.length := by
  rw [shownName, String.toList_ofList, List.length_map, shownPath]

theorem mem_shownPath {c : Char} {name : String} (member : name ∈ names) (inside : c ∈ name.toList) :
    c ∈ (shownPath names).toList := by
  induction names with
  | nil => cases member
  | cons first rest ih =>
    by_cases last : rest = []
    next =>
      subst last
      obtain rfl := List.mem_singleton.mp member
      simpa [shownPath] using inside
    next =>
      rw [shownPath_cons first last, List.mem_append, List.mem_cons]
      rcases List.mem_cons.mp member with rfl | later
      · exact .inl inside
      · exact .inr (.inr (ih later))

theorem shownName_eq_iff :
    shownName names = shownPath names ↔ ∀ name ∈ names, '\\' ∉ name.toList := by
  refine ⟨fun same name member inside => ?_, shownName_eq⟩
  have chars := congrArg String.toList same
  rw [shownName, String.toList_ofList, ← shownPath] at chars
  have kept : ∀ c ∈ (shownPath names).toList, (if c = '\\' then '/' else c) = c := by
    have mapped : (shownPath names).toList.map (fun c => if c = '\\' then '/' else c) =
        (shownPath names).toList.map id := by rw [chars, List.map_id]
    exact List.map_inj_left.mp mapped
  have slash := kept '\\' (mem_shownPath member inside)
  cases slash

theorem join_ends (base p : String) : ∃ front, (join base p).toList = front ++ p.toList := by
  unfold join
  split
  next => exact ⟨[], rfl⟩
  next =>
    split
    next => exact ⟨base.toList, String.toList_append ..⟩
    next => exact ⟨(base ++ "/").toList, String.toList_append ..⟩

theorem isAbsolute_append {name : String} (fit : IsFileName name) (rest : String) :
    isAbsolute (name ++ rest) = false := by
  obtain ⟨c, more, start⟩ := List.exists_cons_of_ne_nil (l := name.toList) (by simpa using fit.some)
  have relative := fit.relative
  rw [isAbsolute, start] at relative
  rw [isAbsolute, String.toList_append, start]
  exact relative

theorem shownPath_cut (name : String) (some : names ≠ []) :
    shownPath (name :: names) = name ++ ("/" ++ shownPath names) := by
  rw [shownPath, String.intercalate_cons_of_ne_nil some, ← shownPath, String.append_assoc]

theorem isAbsolute_shownPath (fit : ∀ name ∈ names, IsFileName name) :
    isAbsolute (shownPath names) = false := by
  cases names with
  | nil => rfl
  | cons name rest =>
    have own := fit name List.mem_cons_self
    by_cases last : rest = []
    next =>
      subst last
      rw [shownPath, String.intercalate_singleton]
      exact own.relative
    next =>
      rw [shownPath_cut name last]
      exact isAbsolute_append own _

theorem join_join {name p : String} (fit : IsFileName name) (relative : isAbsolute p = false)
    (base : String) : join (join base name) p = join base (name ++ ("/" ++ p)) := by
  have ends : (join base name).toList.getLast? ≠ some '/' := fun slash =>
    fit.plain (List.mem_of_getLast? (getLast?_join fit base ▸ slash))
  have given : join base name ≠ "" := fun empty => by
    have last := getLast?_join fit base
    rw [empty] at last
    exact fit.some (by simpa using last.symm)
  have outer : join (join base name) p = join base name ++ "/" ++ p := by
    rw [join, relative, if_neg (by simpa using given), if_neg (by simpa using ends)]
  rw [outer]
  simp only [join, fit.relative, isAbsolute_append fit, Bool.false_or]
  split
  next => rw [String.append_assoc]
  next => split <;> simp only [String.append_assoc]

theorem join_shownPath (some : names ≠ []) (fit : ∀ name ∈ names, IsFileName name) (dir : String) :
    join dir (shownPath names) = pathTo dir names := by
  induction names generalizing dir with
  | nil => exact absurd rfl some
  | cons name rest ih =>
    by_cases last : rest = []
    next =>
      subst last
      rw [shownPath, String.intercalate_singleton]
      rfl
    next =>
      have later := fun other member => fit other (List.mem_cons_of_mem name member)
      have inner := join_join (fit name List.mem_cons_self) (isAbsolute_shownPath later) dir
      rw [shownPath_cut name last, ← inner, ih last later]
      rfl

theorem join_shownName_iff (some : names ≠ []) (fit : ∀ name ∈ names, IsFileName name)
    (dir : String) :
    join dir (shownName names) = pathTo dir names ↔ ∀ name ∈ names, '\\' ∉ name.toList := by
  rw [← shownName_eq_iff, ← join_shownPath some fit]
  refine ⟨fun same => ?_, fun same => by rw [same]⟩
  -- both paths end in texts of one length, so these are equal whatever is in front of them
  obtain ⟨front, one⟩ := join_ends dir (shownName names)
  obtain ⟨front', two⟩ := join_ends dir (shownPath names)
  rw [same, two] at one
  exact String.ext (List.append_inj' one (length_shownName names).symm).2.symm

theorem shown_nodup_iff (tidy : (Node.dir entries).IsTidy) :
    ((filesBelow [] (.dir entries)).map fun file => shownName file.1).Nodup ↔
      ∀ names data others other, Regular (.dir entries) names data ->
        Regular (.dir entries) others other -> shownName names = shownName others ->
          names = others := by
  have once : (filesBelow [] (.dir entries)).Nodup :=
    (filesBelow_increasing [] tidy).imp fun ahead same => (same ▸ ahead).irrefl
  rw [List.nodup_map_iff_inj_on once]
  constructor
  · intro apart names data others other regular regular' same
    exact congrArg Prod.fst (apart (names, data) ((mem_below tidy).mpr regular) (others, other)
      ((mem_below tidy).mpr regular') same)
  · intro apart file member file' member' same
    have regular := (mem_below tidy).mp member
    have regular' := (mem_below tidy).mp member'
    have names := apart _ _ _ _ regular regular' same
    exact Prod.ext names (regular.unique (names ▸ regular'))

theorem clash_backslash (fit : ∀ name ∈ names, IsFileName name)
    (fits : ∀ name ∈ others, IsFileName name) (same : shownName names = shownName others)
    (apart : names ≠ others) : ∃ name ∈ names ++ others, '\\' ∈ name.toList := by
  by_contra none
  simp only [not_exists, not_and] at none
  rw [shownName_eq fun name member => none name (List.mem_append_left _ member),
    shownName_eq fun name member => none name (List.mem_append_right _ member)] at same
  exact apart (shownPath_injective fit fits same)

theorem window_sublist {A : Type} (offset limit : Nat) (xs : List A) :
    (window offset limit xs).Sublist xs := by
  unfold window
  split
  next => exact List.drop_sublist ..
  next => exact (List.take_sublist ..).trans (List.drop_sublist ..)

theorem matched_sublist {dots : Bool} {query : String} {o asked : Options}
    {finding : Finding Candidates} (probed : probe v dir dots query o = .ok finding) {u : Volume}
    {revision : String} {harvest : Harvest}
    (fetched : fetch u revision finding.payload asked = .ok harvest) :
    (harvest.matched.map FileMatch.file).Sublist (walk v dir dots).shown := by
  obtain ⟨filter, _, files, _⟩ := probe_ok probed
  have spec := fetch_spec u revision finding.payload asked
  rw [fetched] at spec
  rw [spec.2.2, files]
  refine (window_sublist ..).trans (.trans (.map _ ?_) (List.sublist_append_left ..))
  exact (List.filter_sublist.trans (List.drop_sublist ..)).trans List.filter_sublist

/-- A file is shown under its path, with a slash for each backslash. This is the path itself, and no
other file's name, where no name on it has a backslash; and files are brought under names that
are as different as those listed. -/
theorem names_shown (v : Volume) (dir : String) (entries : List (String × Node))
    (found : v.find dir = .ok (.dir entries)) (tidy : (Node.dir entries).IsTidy) (dots : Bool) :
    let l := walk v dir dots
    (∀ f ∈ l.files, ∃ names data, Regular (.dir entries) names data ∧
      f.name = shownName names ∧ f.path = pathTo dir names ∧ v.readBytes f.path = .ok data ∧
      (join dir f.name = f.path ↔ ∀ name ∈ names, '\\' ∉ name.toList)) ∧
    (∀ e ∈ l.excluded, ∃ names data, Regular (.dir entries) names data ∧
      e.name = shownName names ∧ v.readBytes (pathTo dir names) = .ok data ∧
      (join dir e.name = pathTo dir names ↔ ∀ name ∈ names, '\\' ∉ name.toList)) ∧
    (l.shown.Nodup ↔ ∀ names data others other, Regular (.dir entries) names data ->
      Regular (.dir entries) others other -> shownName names = shownName others ->
        names = others) ∧
    (∀ names data others other, Regular (.dir entries) names data ->
      Regular (.dir entries) others other -> shownName names = shownName others ->
        names ≠ others -> ∃ name ∈ names ++ others, '\\' ∈ name.toList) ∧
    (LacksBackslash (.dir entries) -> l.shown.Nodup) ∧
    (l.shown.Nodup -> ∀ query o finding, probe v dir dots query o = .ok finding ->
      ∀ u revision asked harvest, fetch u revision finding.payload asked = .ok harvest ->
        (harvest.matched.map FileMatch.file).Nodup) := by
  intro l
  obtain ⟨excluded, searched⟩ := walk_lists found tidy dots
  have placed : ∀ {names data}, Regular (.dir entries) names data ->
      v.readBytes (pathTo dir names) = .ok data ∧
        (join dir (shownName names) = pathTo dir names ↔ ∀ name ∈ names, '\\' ∉ name.toList) := by
    intro names data regular
    obtain ⟨some, fit⟩ := named_below tidy (names, data) ((mem_below tidy).mpr regular)
    exact ⟨Volume.readBytes_below found tidy regular.there, join_shownName_iff some fit dir⟩
  have listed : l.shown.Nodup ↔
      ((filesBelow [] (.dir entries)).map fun f => shownName f.1).Nodup := by
    simp only [l]
    rw [walk_dir found]
    exact (shown_perm dots dir (named_below tidy)).nodup_iff
  refine ⟨fun f member => ?_, fun e member => ?_, listed.trans (shown_nodup_iff tidy), ?_,
    fun plain => listed.mpr (shown_once tidy plain), ?_⟩
  · obtain ⟨names, data, regular, _, rfl⟩ := (searched f).mp member
    obtain ⟨read, joined⟩ := placed regular
    exact ⟨names, data, regular, rfl, rfl, read, joined⟩
  · obtain ⟨names, data, _, regular, _, rfl⟩ := (excluded e).mp member
    obtain ⟨read, joined⟩ := placed regular
    exact ⟨names, data, regular, rfl, read, joined⟩
  · intro names data others other regular regular' same apart
    exact clash_backslash (tidy.fileNames regular.there) (tidy.fileNames regular'.there) same apart
  · intro once query o finding probed u revision asked harvest fetched
    exact once.sublist (matched_sublist probed fetched)

-- A file in a directory, and one whose own name looks like a path.
def slashedTree : List (String × Node) :=
  [("a", .dir [("b.txt", .file "two".toUTF8)]), ("a\\b.txt", .file "one".toUTF8),
    ("c.txt", .file "one".toUTF8)]

def slashed : Volume where
  root := .dir [("r", .dir slashedTree)]

theorem slashed_clash :
    (walk slashed "r" false).files =
      [{ name := "a/b.txt", path := "r/a/b.txt" }, { name := "a/b.txt", path := "r/a\\b.txt" },
        { name := "c.txt", path := "r/c.txt" }] ∧
    ¬ (walk slashed "r" false).shown.Nodup ∧ join "r" "a/b.txt" ≠ "r/a\\b.txt" ∧
    ((probe slashed "r" false "o" {}).toOption.bind fun finding =>
      (fetch slashed "" finding.payload {}).toOption.map fun harvest =>
        harvest.matched.map FileMatch.file) = some ["a/b.txt", "a/b.txt", "c.txt"] := by
  decide +kernel

def dashedTree : List (String × Node) :=
  [("a", .dir [("b.txt", .file "two".toUTF8)]), ("a-b.txt", .file "one".toUTF8)]

theorem slashed_names :
    ¬ (walk slashed "r" false).shown.Nodup ∧
    (∃ name ∈ ["a", "b.txt"] ++ ["a\\b.txt"], '\\' ∈ name.toList) ∧
    (walk { root := .dir [("r", .dir dashedTree)] } "r" true).shown.Nodup := by
  have tidy : (Node.dir slashedTree).IsTidy := Node.tidy_of_isTidy _ (by decide +kernel)
  have tidily : (Node.dir dashedTree).IsTidy := Node.tidy_of_isTidy _ (by decide +kernel)
  have plain : LacksBackslash (.dir dashedTree) := by
    have file : ∀ data, LacksBackslash (.file data) := fun data => .of_leaf rfl
    refine .of_entries (by decide) (List.forall_mem_cons.mpr ⟨.of_entries (by decide) ?_, ?_⟩) <;>
      simp [file]
  have two : Regular (.dir slashedTree) ["a", "b.txt"] "two".toUTF8 := ⟨rfl, by decide⟩
  have one : Regular (.dir slashedTree) ["a\\b.txt"] "one".toUTF8 := ⟨rfl, by decide⟩
  have same : shownName ["a", "b.txt"] = shownName ["a\\b.txt"] := by decide +kernel
  obtain ⟨_, _, apart, clash, _⟩ := names_shown slashed "r" slashedTree rfl tidy false
  obtain ⟨_, _, _, _, once, _⟩ := names_shown { root := .dir [("r", .dir dashedTree)] } "r"
    dashedTree rfl tidily true
  refine ⟨fun nodup => ?_, clash _ _ _ _ two one same (by decide), once plain⟩
  exact absurd (apart.mp nodup _ _ _ _ two one same) (by decide)

end FleetSearch.Checkout
