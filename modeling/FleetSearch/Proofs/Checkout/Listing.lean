import FleetSearch.Checkout.Walk
import FleetSearch.Proofs.Disk.Entries
import Mathlib.Data.List.Basic

set_option autoImplicit false

namespace FleetSearch.Checkout

open FleetSearch.Disk FleetSearch.Disk.Path

structure Regular (tree : Node) (names : List String) (data : ByteArray) : Prop where
  there : tree.get? names = some (.file data)
  wanted : ∀ name ∈ names.dropLast, name ∉ ignoredDirs

variable {entries : List (String × Node)} {tree : Node} {names before : List String}
  {data other : ByteArray} {file : List String × ByteArray} {dots : Bool}

theorem Regular.unique (regular : Regular tree names data) (again : Regular tree names other) :
    data = other := by
  have same := regular.there.symm.trans again.there
  cases same
  rfl

theorem mem_insertByName {A : Type} {name : String} {a : A} {sorted : List (String × A)}
    {e : String × A} : e ∈ insertByName name a sorted ↔ e = (name, a) ∨ e ∈ sorted := by
  induction sorted with
  | nil => simp [insertByName]
  | cons first rest ih =>
    rw [insertByName]
    split
    next => rw [List.mem_cons, ih, List.mem_cons, or_left_comm]
    next => rw [List.mem_cons]

theorem mem_branches {e : String × List (List String × ByteArray)} :
    e ∈ branches before entries ↔ ∃ entry ∈ entries,
      ¬ (entry.2.isDir = true ∧ entry.1 ∈ ignoredDirs) ∧
        e = (entry.1, filesBelow (before ++ [entry.1]) entry.2) := by
  induction entries with
  | nil => simp [branches]
  | cons entry rest ih =>
    rw [branches, List.exists_mem_cons_iff, ← ih]
    split
    next ignored =>
      have ignored : entry.2.isDir = true ∧ entry.1 ∈ ignoredDirs := by simpa using ignored
      simp [ignored]
    next wanted =>
      have wanted : ¬ (entry.2.isDir = true ∧ entry.1 ∈ ignoredDirs) := by simpa using wanted
      rw [mem_insertByName]
      simp only [wanted, not_false_eq_true, true_and]

theorem Regular.file_iff : Regular (.file data) names file.2 ↔ names = [] ∧ data = file.2 := by
  constructor
  · rintro ⟨there, _⟩
    cases names with
    | nil => exact ⟨rfl, by simpa [Node.get?] using there⟩
    | cons name rest => simp [Node.get?, Node.child?] at there
  · rintro ⟨rfl, rfl⟩
    exact ⟨rfl, by simp⟩

theorem Regular.not_link (target : String) : ¬ Regular (.link target) names data := by
  rintro ⟨there, _⟩
  cases names <;> simp [Node.get?, Node.child?] at there

theorem Regular.dir_iff (once : (entries.map Prod.fst).Nodup) :
    Regular (.dir entries) names data ↔
      ∃ e ∈ entries, ¬ (e.2.isDir = true ∧ e.1 ∈ ignoredDirs) ∧
        ∃ rest, names = e.1 :: rest ∧ Regular e.2 rest data := by
  constructor
  · rintro ⟨there, wanted⟩
    cases names with
    | nil => simp [Node.get?] at there
    | cons name rest =>
      rw [Node.get?] at there
      obtain ⟨below, found, later⟩ := Option.bind_eq_some_iff.mp there
      refine ⟨(name, below), lookup_mem found, ?_, rest, rfl, later, fun other member => ?_⟩
      · rintro ⟨inside, ignored⟩
        cases rest with
        | nil =>
          obtain rfl := Option.some.inj later
          cases inside
        | cons next rest => exact wanted name (by simp) ignored
      · cases rest with
        | nil => cases member
        | cons next rest => exact wanted other (List.mem_cons_of_mem _ member)
  · rintro ⟨⟨name, below⟩, member, wanted, rest, rfl, there, later⟩
    have found := lookup_of_mem once member
    refine ⟨?_, fun other inside => ?_⟩
    · rw [Node.get?, Node.child?, found]
      exact there
    · cases rest with
      | nil => cases inside
      | cons next rest =>
        rcases List.mem_cons.mp inside with rfl | inside
        · intro ignored
          refine wanted ⟨?_, ignored⟩
          cases below <;> simp [Node.get?, Node.child?, Node.isDir] at there ⊢
        · exact later other inside

theorem mem_filesBelow (tidy : tree.IsTidy) : file ∈ filesBelow before tree ↔
    ∃ names, file.1 = before ++ names ∧ Regular tree names file.2 := by
  induction tidy generalizing before with
  | file data =>
    simp only [filesBelow, List.mem_singleton, Regular.file_iff, Prod.ext_iff]
    constructor
    · rintro ⟨place, same⟩
      exact ⟨[], by simpa using place, rfl, same.symm⟩
    · rintro ⟨names, place, rfl, same⟩
      exact ⟨by simpa using place, same.symm⟩
  | link target => simp [filesBelow, Regular.not_link]
  | @dir entries once _ _ ih =>
    rw [filesBelow, List.mem_flatMap]
    constructor
    · rintro ⟨_, branch, below⟩
      obtain ⟨e, member, wanted, rfl⟩ := mem_branches.mp branch
      obtain ⟨rest, place, regular⟩ := (ih e member).mp below
      exact ⟨e.1 :: rest, by simpa using place,
        (Regular.dir_iff once).mpr ⟨e, member, wanted, rest, rfl, regular⟩⟩
    · rintro ⟨names, place, regular⟩
      obtain ⟨e, member, wanted, rest, rfl, below⟩ := (Regular.dir_iff once).mp regular
      exact ⟨_, mem_branches.mpr ⟨e, member, wanted, rfl⟩,
        (ih e member).mpr ⟨rest, by simpa using place, below⟩⟩

def reason? (dots : Bool) (names : List String) (size : Nat) : Option Exclusion :=
  exclusion dots (shownName names) (names.getLast?.getD "") size

theorem add_eq {dir : String} {l : Listing} (named : ∀ name ∈ file.1, IsFileName name)
    (there : file.1 ≠ []) : Listing.add dots dir file l =
      match reason? dots file.1 file.2.size with
      | some why => { l with excluded := { name := shownName file.1, why } :: l.excluded }
      | none =>
        { l with files := { name := shownName file.1, path := pathTo dir file.1 } :: l.files } := by
  obtain ⟨front, name, ends⟩ := (List.eq_nil_or_concat file.1).resolve_left there
  have last : file.1.getLast? = some name := by simp [ends]
  have own : fileName (file.1.foldl join dir) = some name :=
    fileName_pathTo last (named name (List.mem_of_getLast? last)) dir
  cases judged : exclusion dots (shownName file.1) name file.2.size with
  | none => simp [Listing.add, reason?, last, own, judged, pathTo]
  | some why => simp [Listing.add, reason?, last, own, judged]

theorem mem_list (dots : Bool) (dir : String) {files : List (List String × ByteArray)}
    (named : ∀ file ∈ files, file.1 ≠ [] ∧ ∀ name ∈ file.1, IsFileName name) :
    (∀ e, e ∈ (list dots dir files).excluded ↔ ∃ file ∈ files, ∃ why,
      reason? dots file.1 file.2.size = some why ∧ e = { name := shownName file.1, why }) ∧
    ∀ f, f ∈ (list dots dir files).files ↔ ∃ file ∈ files,
      reason? dots file.1 file.2.size = none ∧
        f = { name := shownName file.1, path := pathTo dir file.1 } := by
  induction files with
  | nil => simp [list]
  | cons file rest ih =>
    obtain ⟨excluded, searched⟩ := ih fun other member => named other (List.mem_cons_of_mem _ member)
    obtain ⟨there, fit⟩ := named file List.mem_cons_self
    have first : list dots dir (file :: rest) = Listing.add dots dir file (list dots dir rest) := rfl
    rw [first, add_eq fit there]
    cases judged : reason? dots file.1 file.2.size with
    | none =>
      refine ⟨fun e => ?_, fun f => ?_⟩
      · rw [excluded, List.exists_mem_cons_iff]
        simp [judged]
      · rw [List.mem_cons, searched, List.exists_mem_cons_iff]
        simp [judged]
    | some why =>
      refine ⟨fun e => ?_, fun f => ?_⟩
      · rw [List.mem_cons, excluded, List.exists_mem_cons_iff]
        simp [judged]
      · rw [searched, List.exists_mem_cons_iff]
        simp [judged]

variable {v : Volume} {dir : String}

theorem walk_dir (found : v.find dir = .ok (.dir entries)) (dots : Bool) :
    walk v dir dots = list dots dir (filesBelow [] (.dir entries)) := by
  obtain ⟨place, located, here⟩ := Volume.find_iff.mp found
  obtain ⟨whole, given, relative, follows⟩ := Volume.locate_follows located
  obtain ⟨short, unfollowed, ends⟩ := follows.unfollowed
  have stops : v.locate false dir = .ok short := by
    rw [Volume.locate, if_neg (by simpa using whole), if_neg (by simp [given, relative])]
    exact Volume.follow_of_follows unfollowed
  have enters : ∀ files : Except Disk.Fault (List (List String × ByteArray)),
      files = .ok (filesBelow [] (.dir entries)) ->
      list dots dir (files.toOption.getD []) = list dots dir (filesBelow [] (.dir entries)) := by
    rintro _ rfl
    rfl
  refine enters _ ?_
  rw [stops]
  rcases ends with rfl | ⟨target, link⟩
  · simp [here, bind, Except.bind, pure, Except.pure]
  · simp [link, found, bind, Except.bind, pure, Except.pure, filesBelow]

theorem walk_lists (found : v.find dir = .ok (.dir entries)) (tidy : (Node.dir entries).IsTidy)
    (dots : Bool) :
    (∀ e, e ∈ (walk v dir dots).excluded ↔ ∃ names data why, Regular (.dir entries) names data ∧
      reason? dots names data.size = some why ∧ e = { name := shownName names, why }) ∧
    ∀ f, f ∈ (walk v dir dots).files ↔ ∃ names data, Regular (.dir entries) names data ∧
      reason? dots names data.size = none ∧
        f = { name := shownName names, path := pathTo dir names } := by
  have members : ∀ file, file ∈ filesBelow [] (.dir entries) ↔
      Regular (.dir entries) file.1 file.2 := by
    intro file
    simp [mem_filesBelow tidy]
  have named : ∀ file ∈ filesBelow [] (.dir entries),
      file.1 ≠ [] ∧ ∀ name ∈ file.1, IsFileName name := by
    intro file member
    have there := ((members file).mp member).there
    refine ⟨fun none => ?_, tidy.fileNames there⟩
    simp [none, Node.get?] at there
  obtain ⟨excluded, searched⟩ := mem_list dots dir named
  rw [walk_dir found]
  refine ⟨fun e => ?_, fun f => ?_⟩
  · rw [excluded]
    simp [members]
  · rw [searched]
    simp [members]

end FleetSearch.Checkout
