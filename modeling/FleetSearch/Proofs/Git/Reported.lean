import FleetSearch.Proofs.Git.Stored
import FleetSearch.Proofs.Git.Upkeep
import FleetSearch.Proofs.Sync.Isolation
import Mathlib

set_option autoImplicit false

namespace FleetSearch.Git

open FleetSearch.Disk

theorem isSafeName_own : isSafeName ".git" = false := by
  cbv

theorem Workspace.Shows.no_own {w : Workspace} {commit : Commit} (shows : w.Shows commit)
    (rest : List String) : w.files.file? (".git" :: rest) = none := by
  rw [shows.files, Repository.fileAt, List.find?_eq_none.mpr, Option.bind_none]
  intro l member same
  have safe := shows.safe l member
  rw [Leaf.isSafe, of_decide_eq_true same, List.all_cons, isSafeName_own] at safe
  cases safe

theorem Workspace.Shows.rooted {w : Workspace} {commit : Commit} (shows : w.Shows commit)
    (tidy : w.repository.Tidy) : w.files.file? [] = none := by
  by_contra file
  have clean := shows.clean tidy
  obtain ⟨l, member, same⟩ := clean.known [] file
  exact clean.inside l member same

theorem file?_writeTree (w : Workspace) (old : Node) (name : String) (rest : List String)
    (apart : name ≠ ".git") :
    (w.writeTree old).file? (name :: rest) = w.files.file? (name :: rest) := by
  unfold Workspace.writeTree
  split
  next own =>
    rw [Node.file?_cons, Node.child?, Node.lookup_putEntry, if_neg apart, Node.lookup_entries,
      Node.file?_cons]
  next => rfl

theorem readFiles_written {w : Workspace} {site : Site} (rooted : w.files.file? [] = none)
    (apart : ∀ rest, w.files.file? (".git" :: rest) = none)
    (inside : site.git = site.tree ++ [".git"]) (own : site.isBare = false) (v : Volume)
    (path : List String) :
    (readFiles (w.write v site) site).file? path = w.files.file? path := by
  let tree := w.writeTree ((v.root.get? site.tree).getD (.dir []))
  obtain ⟨git, wrote⟩ : ∃ git, (w.write v site).root.get? site.tree =
      some (tree.put [".git"] git) := by
    have there : (v.root.put site.tree tree).get? site.tree = some tree := by
      simpa [Node.put] using Node.get?_put site.tree [] v.root tree
    simp only [Workspace.write, own, Bool.false_eq_true, if_false, inside, Node.get?_put]
    rw [there]
    exact ⟨_, rfl⟩
  have read : readFiles (w.write v site) site = (tree.put [".git"] git).erase [".git"] := by
    rw [readFiles, wrote]
    rfl
  rw [read]
  cases path with
  | nil => rw [rooted]; rfl
  | cons name rest =>
    rw [Node.file?_erase]
    split
    next same => rw [same, apart]
    next other =>
      rw [Node.file?_cons, Node.child?_put, if_neg other, ← Node.file?_cons]
      exact file?_writeTree w _ name rest other

theorem readFiles_write {w : Workspace} {site : Site} {commit : Commit} (shows : w.Shows commit)
    (tidy : w.repository.Tidy) (inside : site.git = site.tree ++ [".git"])
    (own : site.isBare = false) (v : Volume) (path : List String) :
    (readFiles (w.write v site) site).file? path = w.files.file? path :=
  readFiles_written (shows.rooted tidy) shows.no_own inside own v path

theorem site_own {v : Volume} {dir : String} {site : Site} {r : Repository}
    (opened : openRepository v dir = .ok (site, r)) (inside : site.git = site.tree ++ [".git"]) :
    site.isBare = false := by
  unfold openRepository at opened
  split at opened
  next => cases opened
  next found there =>
    split at opened
    next => cases opened
    next =>
      cases opened
      obtain ⟨tree, _, there⟩ := Option.bind_eq_some_iff.mp there
      split at there
      next =>
        cases there
        rfl
      next =>
        split at there
        next =>
          cases there
          simp at inside
        next => cases there

theorem cloneInto_ok {v made : Volume} {url dir : String} {w : Workspace}
    (ran : cloneInto v url dir = .ok (made, w)) : ∃ origin branch dirs tree base,
      openOrigin v url = .ok origin ∧ Workspace.clone origin = .ok (w, branch) ∧
        v.makeDirs dir = .ok dirs ∧ dirs.locate true dir = .ok tree ∧
        made = w.write base { tree, git := tree ++ [".git"] } := by
  obtain ⟨origin, opened, ran⟩ := bind_ok ran
  obtain ⟨⟨w, branch⟩, read, ran⟩ := bind_ok ran
  obtain ⟨dirs, below, ran⟩ := bind_ok ran
  obtain ⟨tree, place, ran⟩ := bind_ok ran
  cases ran
  exact ⟨origin, branch, dirs, tree, _, opened, read, mapError_ok below, mapError_ok place, rfl⟩

theorem cloneInto_takes {v dirs : Volume} {url dir : String} {origin : Repository} {w : Workspace}
    {branch : Option String} {tree : List String} (opened : openOrigin v url = .ok origin)
    (read : Workspace.clone origin = .ok (w, branch)) (below : v.makeDirs dir = .ok dirs)
    (place : dirs.locate true dir = .ok tree) : ∃ made, cloneInto v url dir = .ok (made, w) := by
  rw [cloneInto, opened]
  simp only [bind, Except.bind, read, below, place, Except.mapError]
  exact ⟨_, rfl⟩

theorem sync_clones {v up made : Volume} {url dir : String} {w : Workspace}
    (absent : v.isPresent dir = false) (above : v.makeDirs ((Path.parent dir).getD "") = .ok up)
    (cloned : cloneInto up url dir = .ok (made, w)) :
    (Git.sync v (some url) dir).result = w.headId.mapError .plain ∧
      (Git.sync v (some url) dir).volume = made := by
  have run : Git.sync v (some url) dir = clone v url dir := if_neg (by simp [absent])
  rw [run, clone]
  simp only [above, cloned, and_self]

theorem sync_pulls {v : Volume} {url dir : String} (present : v.isPresent dir = true) :
    Git.sync v (some url) dir = Git.pull v dir :=
  if_pos present

theorem makeDirs_empty (v : Volume) : v.makeDirs "" = .ok v := by
  rw [Volume.makeDirs, Volume.makeDirsFrom]
  simp

namespace Leaves

variable {url dir : String} {v : Volume} {l : Left}

theorem sound (leaves : Leaves url dir v l) (tidy : l.workspace.repository.Tidy) :
    l.workspace.Sound l.foiled := by
  induction leaves with
  | cloned v up dirs made tree origin w absent above opened below place cloned =>
    obtain ⟨read, branch, _, _, _, same, fresh, _⟩ := cloneInto_ok cloned
    exact (clone_fresh fresh).sound tidy
  | pulled before v left site r earlier present opened inside tracks kept ih =>
    have pulled := (Workspace.read v site r).pull_pulled v dir
    -- no object is ever lost, so the trees of the sync before were tidy too
    have sound := ih (tidy.within (kept.objects.trans pulled.within))
    have found := sound.same kept.refs kept.objects kept.tracked kept.files
    exact found.pulled tracks pulled tidy

theorem tells (leaves : Leaves url dir v l) (tidy : l.workspace.repository.Tidy) {sha : Id}
    (told : (Git.sync v (some url) dir).result = .ok sha) :
    l.workspace.headId = .ok sha ∧
      (∃ origin, l.origin = some origin ∧ (origin.OnBranch -> l.workspace.CaughtUp origin sha)) ∧
      (∃ base, (Git.sync v (some url) dir).volume = l.workspace.write base l.site) ∧
      l.site.git = l.site.tree ++ [".git"] ∧ l.site.isBare = false := by
  cases leaves with
  | cloned v up dirs made tree origin w absent above opened below place cloned =>
    obtain ⟨read, branch, again, other, base, same, fresh, here, there, wrote⟩ := cloneInto_ok cloned
    obtain rfl := Except.ok.inj (opened.symm.trans same)
    obtain rfl := Except.ok.inj (below.symm.trans here)
    obtain rfl := Except.ok.inj (place.symm.trans there)
    obtain ⟨answer, volume⟩ := sync_clones absent above cloned
    have head := mapError_ok (answer.symm.trans told)
    exact ⟨head, ⟨origin, rfl, fun onBranch => (clone_fresh fresh).tells onBranch head⟩,
      ⟨base, volume.trans wrote⟩, rfl, rfl⟩
  | pulled before v left site r earlier present opened inside tracks kept =>
    obtain ⟨answer, written⟩ := pull_read opened
    rw [sync_pulls present] at told ⊢
    rw [answer] at told
    have wrote : (Git.pull v dir).volume =
        ((Workspace.read v site r).pull v dir).1.write v site := by
      rcases written with wrote | ⟨_, fault, failed⟩
      · exact wrote
      · rw [failed] at told
        cases told
    have pulled := (Workspace.read v site r).pull_pulled v dir
    have sound := earlier.sound (tidy.within (kept.objects.trans pulled.within))
    have found := sound.same kept.refs kept.objects kept.tracked kept.files
    obtain ⟨head, origin, read, caughtUp⟩ := pulled.tells found tracks told
    refine ⟨head, ⟨origin, by rw [read]; rfl, fun _ => caughtUp⟩,
      ⟨v, wrote⟩, inside, site_own opened inside⟩

end Leaves

/-- What a sync that tells of commit `sha` has made true. -/
theorem reported_sync {url dir : String} {v : Volume} {l : Left} (leaves : Leaves url dir v l)
    (tidy : l.workspace.repository.Tidy) {sha : Id}
    (told : (Git.sync v (some url) dir).result = .ok sha) :
    l.workspace.headId = .ok sha ∧
    (∃ origin, l.origin = some origin ∧ (origin.OnBranch -> l.workspace.CaughtUp origin sha)) ∧
    (∃ base, (Git.sync v (some url) dir).volume = l.workspace.write base l.site) ∧
    (∃ commit, l.workspace.repository.object? sha = some (.commit commit) ∧
      (l.foiled = none -> l.workspace.Shows commit ∧ ∀ path,
        (readFiles (Git.sync v (some url) dir).volume l.site).file? path =
          l.workspace.files.file? path) ∧
      -- the files are still those of an earlier commit
      ∀ path, l.foiled = some (.plain (.badPath path)) -> ¬ l.workspace.Shows commit) ∧
    ∀ (s : Service) (i k : Nat) (c : Checkout), s.volume = v -> s.fleet.Works i k ->
      s.fleet.checkout? i = some c -> c.repo.url = some url -> c.dir = dir ->
      (s.work k).volume = (Git.sync v (some url) dir).volume ∧
        ∃ after, (s.work k).fleet.checkout? i = some after ∧ after.status.revision = some sha := by
  obtain ⟨head, upToDate, ⟨base, wrote⟩, inside, own⟩ := leaves.tells tidy told
  obtain ⟨commit, there, shows, stale⟩ := (leaves.sound tidy).tells head
  refine ⟨head, upToDate, ⟨base, wrote⟩, ⟨commit, there, fun written => ?_, stale⟩, ?_⟩
  · have shown := shows written
    exact ⟨shown, fun path => wrote ▸ readFiles_write shown tidy inside own base path⟩
  · rintro s i k c rfl works here same rfl
    obtain ⟨volume, after, found, status⟩ := s.work_record works here
    rw [same] at volume status
    refine ⟨volume, after, found, ?_⟩
    rw [status, told]
    rfl

namespace Unwritable

def idOf (c : Char) : Id := String.ofList (List.replicate 40 c)

section Bodies

variable {bodies : List (Char × List UInt8)} {contents : List (Id × Object)} {r : Repository}

def objectsOf (bodies : List (Char × List UInt8)) : List (Id × ByteArray) :=
  bodies.map fun o => (idOf o.1, (Stream.stored o.2).toByteArray)

def objectDirsOf (bodies : List (Char × List UInt8)) : Node :=
  .dir (bodies.map fun o => (String.ofList (List.replicate 2 o.1),
    .dir [(String.ofList (List.replicate 38 o.1), .file (Stream.stored o.2).toByteArray)]))

-- What is packed in `bodies` is read as `contents`.
def Spell (bodies : List (Char × List UInt8)) (contents : List (Id × Object)) : Prop :=
  (∀ o ∈ bodies, o.2.length < 65536 ∧ takeId? (List.replicate 40 o.1) = some (idOf o.1, [])) ∧
    bodies.map (fun o => (idOf o.1, Object.read? o.2)) = contents.map fun o => (o.1, some o.2)

theorem unpacked_of (spell : Spell bodies contents) :
    (objectsOf bodies).map (fun o => (o.1, Object.unpack? o.2)) =
      contents.map fun o => (o.1, some o.2) := by
  obtain ⟨each, read⟩ := spell
  rw [← read, objectsOf, List.map_map]
  refine List.map_congr_left fun o member => ?_
  rw [Function.comp_apply, Object.unpack?, toList_toByteArray,
    Stream.unpack_stored (each o member).1, Option.bind_some]

theorem object_of (spell : Spell bodies contents) (same : r.objects = objectsOf bodies) (id : Id) :
    r.object? id = contents.lookup id := by
  have lookup_map : ∀ {A B : Type} (f : A -> B) (entries : List (Id × A)),
      (entries.map fun e => (e.1, f e.2)).lookup id = (entries.lookup id).map f := by
    intro A B f entries
    induction entries with
    | nil => rfl
    | cons e rest ih =>
      rw [List.map_cons, lookup_cons_if, ih, lookup_cons_if]
      split <;> rfl
  have found : ((objectsOf bodies).lookup id).map Object.unpack? =
      (contents.lookup id).map some := by
    rw [← lookup_map, unpacked_of spell, lookup_map]
  rw [Repository.object?, same]
  cases here : (objectsOf bodies).lookup id <;> cases there : contents.lookup id <;> simp_all

theorem tidy_of (spell : Spell bodies contents) (same : r.objects = objectsOf bodies)
    (each : ∀ e ∈ contents, ∀ entries, e.2 = .tree entries -> (entries.map (·.name)).Nodup) :
    r.Tidy := by
  intro id entries there
  rw [object_of spell same] at there
  obtain ⟨before, after, split, _⟩ := List.lookup_eq_some_iff.mp there
  exact each (id, .tree entries) (split ▸ by simp) entries rfl

theorem readObjects_of (spell : Spell bodies contents) {v : Volume} {git : String}
    {place : List String} (there : v.locate true (Path.join git "objects") = .ok place)
    (held : v.root.get? place = some (objectDirsOf bodies)) :
    readObjects v git = objectsOf bodies := by
  have dirs : dirAt v (Path.join git "objects") = objectDirsOf bodies := by
    rw [dirAt, Volume.find, there]
    simp only [bind, Except.bind, held]
    rfl
  have files : filesBelow [] (objectDirsOf bodies) = bodies.map fun o =>
      ([String.ofList (List.replicate 2 o.1), String.ofList (List.replicate 38 o.1)],
        (Stream.stored o.2).toByteArray) := by
    rw [objectDirsOf, filesBelow]
    clear spell held dirs
    induction bodies with
    | nil => rw [List.map_nil, filesAmong, List.map_nil]
    | cons o rest ih =>
      rw [List.map_cons, filesAmong, ih, filesBelow, filesAmong, filesBelow, filesAmong]
      rfl
  rw [readObjects, dirs, files, List.filterMap_map, objectsOf, ← List.filterMap_eq_map]
  refine List.filterMap_congr fun o member => ?_
  have whole : takeId? (String.ofList (List.replicate 2 o.1) ++
      String.ofList (List.replicate 38 o.1)).toList = some (idOf o.1, []) := by
    rw [String.toList_append, String.toList_ofList, String.toList_ofList,
      List.replicate_append_replicate]
    exact (spell.1 o member).2
  simp only [Function.comp_apply, whole, String.length_ofList, List.length_replicate, if_true]

end Bodies

def fileId : Id := idOf '6'
def oldTip : Id := idOf 'a'
def newTip : Id := idOf 'b'
def newTree : Id := idOf 'c'
def oldTree : Id := idOf 'e'

def fileData : List UInt8 := Object.ascii "one\n"

-- a commit with one file, and a later one with a file that may not be written
def bodies : List (Char × List UInt8) :=
  [('6', Object.ascii "blob 4\x00" ++ fileData),
    ('a', Object.ascii "commit 69\x00tree " ++ List.replicate 40 0x65 ++
      Object.ascii "\nauthor <>\ncommitter <>\n"),
    ('b', Object.ascii "commit 117\x00tree " ++ List.replicate 40 0x63 ++
      Object.ascii "\nparent " ++ List.replicate 40 0x61 ++
        Object.ascii "\nauthor <>\ncommitter <>\n"),
    ('c', Object.ascii "tree 32\x00100644 .git\x00" ++ List.replicate 20 0x66),
    ('e', Object.ascii "tree 32\x00100644 f.rs\x00" ++ List.replicate 20 0x66)]

def objects : List (Id × ByteArray) :=
  bodies.map fun o => (idOf o.1, (Stream.stored o.2).toByteArray)

def oldCommit : Commit where
  tree := oldTree
  parents := []

def newCommit : Commit where
  tree := newTree
  parents := [oldTip]

def entry (name : String) : TreeEntry where
  name
  kind := .file
  id := fileId

def contents : List (Id × Object) :=
  [(fileId, .blob fileData.toByteArray), (oldTip, .commit oldCommit), (newTip, .commit newCommit),
    (newTree, .tree [entry ".git"]), (oldTree, .tree [entry "f.rs"])]

theorem bodies_read : Spell bodies contents := by
  unfold Spell
  decide +kernel

theorem contents_hold : contents.lookup fileId = some (.blob fileData.toByteArray) ∧
    contents.lookup oldTip = some (.commit oldCommit) ∧
    contents.lookup newTip = some (.commit newCommit) ∧
    contents.lookup newTree = some (.tree [entry ".git"]) ∧
    contents.lookup oldTree = some (.tree [entry "f.rs"]) ∧ oldTip ≠ newTip := by
  decide +kernel

theorem objects_unpacked : objects.map (fun o => (o.1, Object.unpack? o.2)) =
    contents.map fun o => (o.1, some o.2) :=
  unpacked_of bodies_read

def parentsOf? : Option Object -> Option (List Id)
  | some (.commit commit) => some commit.parents
  | _ => none

def leaf (name : String) : Leaf where
  path := [name]
  kind := .file
  id := fileId

section Objects

variable {r : Repository} (same : r.objects = objects)

include same

theorem object_eq (id : Id) : r.object? id = contents.lookup id :=
  object_of bodies_read same id

theorem tidy : r.Tidy := by
  apply tidy_of bodies_read same
  simp [contents]

theorem leaves_of {tree : Id} {name : String}
    (there : contents.lookup tree = some (.tree [entry name])) : r.leaves tree = .ok [leaf name] := by
  rw [Repository.leaves, Repository.leavesBelow, object_eq same, there]
  simp only [Repository.leavesAmong, entry]
  rfl

theorem history_eq : r.history = [(oldTip, []), (newTip, [oldTip])] := by
  have found : r.history = (objects.map fun o => (o.1, Object.unpack? o.2)).filterMap fun o =>
      (parentsOf? o.2).map fun parents => (o.1, parents) := by
    rw [Repository.history, same, List.filterMap_map]
    refine List.filterMap_congr fun o _ => ?_
    simp only [Function.comp_apply]
    cases Object.unpack? o.2 with
    | none => rfl
    | some object => cases object <;> rfl
  rw [found, objects_unpacked]
  rfl

end Objects

def text (s : String) : Node := .file s.toUTF8

def objectDirs : Node :=
  .dir (bodies.map fun o => (String.ofList (List.replicate 2 o.1),
    .dir [(String.ofList (List.replicate 38 o.1), .file (Stream.stored o.2).toByteArray)]))

-- An origin with a branch that stands on `tip` and another that stands on the new commit.
def origin (tip : Id) : Node :=
  .dir [(".git", .dir [("HEAD", text "ref: refs/heads/main\n"), ("objects", objectDirs),
    ("refs", .dir [("heads", .dir [("main", text (tip ++ "\n")), ("next", text (newTip ++ "\n"))])])])]

def settings : String :=
  "[remote \"origin\"]\nurl = origin\nfetch = +refs/heads/*:refs/remotes/origin/*\n" ++
    "[branch \"main\"]\nremote = origin\nmerge = refs/heads/main\n"

-- A checkout whose branch stands on `tip`, with the file of the old commit.
def checkout (tip : Id) : Node :=
  .dir [(".git", .dir [("HEAD", text "ref: refs/heads/main\n"), ("config", text settings),
      ("index", .file (Index.write [leaf "f.rs"]).toByteArray), ("objects", objectDirs),
      ("refs", .dir [("heads", .dir [("main", text (tip ++ "\n"))])])]),
    ("f.rs", .file fileData.toByteArray)]

def start : Volume where
  root := .dir [("origin", origin oldTip)]

-- The origin has moved on.
def later (tip : Id) : Volume where
  root := .dir [("co", checkout tip), ("origin", origin newTip)]

def trunk : String := "refs/heads/main"

def config : Config :=
  [("remote.origin.url", "origin"), ("remote.origin.fetch", standardRule),
    ("branch.main.remote", "origin"), ("branch.main.merge", trunk)]

def ours (tip : Id) : Repository where
  loose := [(Repository.headName, .symbolic trunk), (trunk, .direct tip)]
  objects := objects
  settings := config

def theirs (tip : Id) : Repository where
  loose := [(Repository.headName, .symbolic trunk), (trunk, .direct tip),
    ("refs/heads/next", .direct newTip)]
  objects := objects

def siteOf (dir : String) : Site where
  tree := [dir]
  git := [dir, ".git"]

def reads (v : Volume) (dir : String) (r : Repository) : Bool :=
  let git := dir ++ "/.git"
  v.isDir dir && v.isPresent dir && Site.find? v dir = some (siteOf dir)
    && pathOf [dir, ".git"] = git && readLoose v git = r.loose && readPacked v git = r.packed
    && v.locate true (Path.join git "objects") = .ok [dir, ".git", "objects"]

theorem readBytes_at {v : Volume} {path : String} {place : List String} {data : ByteArray}
    (there : v.locate true path = .ok place) (held : v.root.get? place = some (.file data)) :
    v.readBytes path = .ok data := by
  rw [Volume.readBytes, Volume.find, there]
  simp only [bind, Except.bind, held]
  rfl

theorem opened_of {bodies : List (Char × List UInt8)} {contents : List (Id × Object)} {v : Volume}
    {dir : String} {r : Repository} (spell : Spell bodies contents) (read : reads v dir r = true)
    (settings : readSettings v (dir ++ "/.git") = some r.settings)
    (held : v.root.get? [dir, ".git", "objects"] = some (objectDirsOf bodies))
    (same : r.objects = objectsOf bodies) :
    v.isPresent dir = true ∧ openRepository v dir = .ok (siteOf dir, r) ∧
      openOrigin v dir = .ok r := by
  simp only [reads, Bool.and_eq_true, decide_eq_true_eq] at read
  obtain ⟨⟨⟨⟨⟨⟨isDir, present⟩, found⟩, git⟩, loose⟩, packed⟩, there⟩ := read
  have whole : Repository.read? v (siteOf dir) = some r := by
    simp only [Repository.read?, siteOf, git, settings, loose, packed,
      readObjects_of spell there held, ← same]
    rfl
  have opens : openRepository v dir = .ok (siteOf dir, r) := by
    rw [openRepository, found]
    simp only [whole]
  refine ⟨present, opens, ?_⟩
  rw [openOrigin, isDir, opens]
  rfl

theorem opened {v : Volume} {dir : String} {r : Repository} (read : reads v dir r = true)
    (settings : readSettings v (dir ++ "/.git") = some r.settings)
    (held : v.root.get? [dir, ".git", "objects"] = some objectDirs) (same : r.objects = objects) :
    v.isPresent dir = true ∧ openRepository v dir = .ok (siteOf dir, r) ∧
      openOrigin v dir = .ok r :=
  opened_of bodies_read read settings held same

theorem volumes_read : reads start "origin" (theirs oldTip) = true ∧
    readSettings start "origin/.git" = some [] ∧ start.isPresent "co" = false ∧
    (start.makeDirs "co").toOption.map (fun dirs => dirs.locate true "co") = some (.ok ["co"]) ∧
    ∀ tip ∈ [oldTip, newTip],
      reads (later tip) "origin" (theirs newTip) = true ∧
      readSettings (later tip) "origin/.git" = some [] ∧
      reads (later tip) "co" (ours tip) = true ∧
      (later tip).locate true "co/.git/config" = .ok ["co", ".git", "config"] ∧
      readTracked (later tip) (siteOf "co") = [leaf "f.rs"] := by
  decide +kernel

theorem trunk_names : trunk ≠ Repository.headName ∧ Repository.isBranch trunk = true ∧
    Ref.isName trunk = true ∧ localBranch trunk = trunk := by
  refine ⟨by decide, ?_, ?_, ?_⟩ <;> cbv

theorem config_reads : (settings.toList.all fun c => c.val ≤ 127) = true ∧
    Config.read? settings.toList = some config ∧
    config.get? "remote.origin.url" = some "origin" ∧
    ({ settings := config } : Repository).rules = [FetchRule.read standardRule] ∧
    ({ settings := config } : Repository).followed? trunk = some trunk := by
  decide +kernel

theorem settings_at {v : Volume}
    (place : v.locate true "co/.git/config" = .ok ["co", ".git", "config"])
    (held : v.root.get? ["co", ".git", "config"] = some (text settings)) :
    readSettings v "co/.git" = some config := by
  have file : v.readBytes (Path.join "co/.git" "config") = .ok settings.toUTF8 :=
    readBytes_at place held
  rw [readSettings, file]
  simp only [textOf_plain config_reads.1, config_reads.2.1]
  rfl

theorem opened_later {tip : Id} (is : tip ∈ [oldTip, newTip]) :
    (later tip).isPresent "co" = true ∧
      openRepository (later tip) "co" = .ok (siteOf "co", ours tip) ∧
        openOrigin (later tip) "origin" = .ok (theirs newTip) := by
  obtain ⟨origin, none, own, place, _⟩ := volumes_read.2.2.2.2 tip is
  have config := settings_at place rfl
  obtain ⟨present, opens, _⟩ := opened own config rfl rfl
  exact ⟨present, opens, (opened origin none rfl rfl).2.2⟩

def offered (tip : Id) : Offer where
  head := some tip
  refs := [(trunk, tip), ("refs/heads/next", newTip)]

theorem offer_eq : ∀ tip ∈ [oldTip, newTip], (theirs tip).offer = .ok (offered tip) ∧
    (theirs tip).target trunk = .found trunk tip ∧
    (theirs tip).defaultBranch? (offered tip) tip = some trunk ∧
    ([FetchRule.read standardRule].flatMap (offered tip).taken).all
      (fun e => (objects.lookup e.2).isSome) = true := by
  decide +kernel

-- The workspace that has the file of the old commit.
def standing (r : Repository) : Workspace where
  repository := r
  tracked := [leaf "f.rs"]
  files := .dir [("f.rs", .file fileData.toByteArray)]

theorem ours_ref? (tip : Id) (name : String) : (ours tip).ref? name =
    if name = Repository.headName then some (.symbolic trunk)
    else if name = trunk then some (.direct tip) else none := by
  by_cases head : name = Repository.headName
  next => simp [ours, Repository.ref?, head]
  next =>
    by_cases own : name = trunk
    next =>
      subst own
      simp [ours, Repository.ref?, lookup_cons_if, head]
    next => simp [ours, Repository.ref?, lookup_cons_if, head, own]

theorem ours_on (tip : Id) : (ours tip).On trunk (some (.direct tip)) := by
  obtain ⟨apart, branch, _⟩ := trunk_names
  refine ⟨fun _ => ⟨branch, ?_⟩, ?_⟩
  · rw [ours_ref?, if_pos rfl]
  · rw [ours_ref?, if_neg apart, if_pos rfl]

theorem ours_tracks (tip : Id) : (ours tip).Tracks "origin" := by
  obtain ⟨_, _, url, rules, followed⟩ := config_reads
  refine ⟨url, rules, fun name id stands _ => ?_⟩
  obtain ⟨rfl, _⟩ := (ours_on tip).found stands
  exact followed

theorem safe_leaf : (leaf "f.rs").isSafe = true := by
  cbv

theorem checkout_old {r : Repository} (same : r.objects = objects) :
    Workspace.checkout { repository := r } oldCommit = .ok (standing r) := by
  obtain ⟨file, _, _, _, tree, _⟩ := contents_hold
  have blob : r.object? fileId = some (.blob fileData.toByteArray) := (object_eq same _).trans file
  have node : r.nodeOf (leaf "f.rs") = .ok (.file fileData.toByteArray) := by
    rw [Repository.nodeOf, if_neg nofun]
    simp only [leaf, blob]
    rfl
  have written : r.checkout oldCommit.tree [] (.dir []) =
      .ok ([leaf "f.rs"], .dir [("f.rs", .file fileData.toByteArray)]) := by
    rw [Repository.checkout, oldCommit, leaves_of same tree]
    simp only [bind, Except.bind, List.find?, safe_leaf, Bool.not_true, List.mapM_cons, node]
    rfl
  rw [Workspace.checkout, if_neg nofun, written]
  rfl

theorem checkout_new {w : Workspace} (same : w.repository.objects = objects)
    (own : w.isBare = false) : w.checkout newCommit = .error (.badPath ".git") := by
  obtain ⟨_, _, _, tree, _⟩ := contents_hold
  have bad : (leaf ".git").isSafe = false := by
    rw [Leaf.isSafe, leaf, List.all_cons, isSafeName_own, Bool.false_and]
  have shown : (leaf ".git").shown = ".git" := by
    simp [leaf, Leaf.shown]
  have refused : w.repository.checkout newCommit.tree w.tracked w.files =
      .error (.badPath ".git") := by
    rw [Repository.checkout, newCommit, leaves_of same tree]
    simp only [bind, Except.bind, List.find?, bad, Bool.not_false, shown]
    rfl
  rw [Workspace.checkout, own, if_neg nofun, refused]
  rfl

theorem peel_old {r : Repository} (same : r.objects = objects) :
    r.peel? oldTip = some (oldTip, oldCommit) :=
  Repository.peel_of_object ((object_eq same oldTip).trans contents_hold.2.1)

theorem peel_new {r : Repository} (same : r.objects = objects) :
    r.peel? newTip = some (newTip, newCommit) :=
  Repository.peel_of_object ((object_eq same newTip).trans contents_hold.2.2.1)

theorem head_trunk {r : Repository} {tip : Id} (on : r.On trunk (some (.direct tip))) :
    r.head = .found trunk tip :=
  on.head_found trunk_names.2.2.1

theorem takeUp_refused {r : Repository} (same : r.objects = objects)
    (on : r.On trunk (some (.direct oldTip))) : (standing r).takeUp newTip =
      ((standing r).moveTo trunk newTip, .error (.refused (.badPath ".git"))) := by
  obtain ⟨_, _, _, _, _, apart⟩ := contents_hold
  have own : (standing r).repository = r := rfl
  have moved := (Repository.moveTo_objects (standing r) trunk newTip).trans same
  rw [Workspace.takeUp, own]
  simp only [peel_new same, head_trunk on, peel_old same, history_eq same,
    History.course_child apart, checkout_new moved rfl]

theorem takeUp_done {r : Repository} (same : r.objects = objects)
    (on : r.On trunk (some (.direct newTip))) :
    (standing r).takeUp newTip = (standing r, .ok newTip) := by
  have own : (standing r).repository = r := rfl
  have course : r.history.course newTip newTip = .upToDate :=
    History.course_self (Repository.history_lookup (Repository.object_of_peel (peel_new same)))
  rw [Workspace.takeUp, own]
  simp only [peel_new same, head_trunk on, course]

-- every object is here already
theorem fetch_later {tip : Id} (is : tip ∈ [oldTip, newTip]) : ∃ r offer,
    fetchOrigin (later tip) (ours tip) "origin" = .ok (r, offer) ∧ r.objects = objects ∧
      r.incoming? r.rules offer = some newTip ∧
      ∀ name, Repository.IsOwn name -> r.ref? name = (ours tip).ref? name := by
  obtain ⟨offers, there, _, held⟩ := offer_eq newTip (by simp)
  obtain ⟨_, _, opens⟩ := opened_later is
  have tracks := ours_tracks tip
  have on := ours_on tip
  obtain ⟨r, fetched, same⟩ := (ours tip).fetch_held offers held
  have refs := own_refs fetched
  rw [← tracks.rules] at fetched
  refine ⟨r, offered newTip, ?_, same, ?_, refs⟩
  · rw [fetchOrigin, opens]
    exact fetched
  · exact tracks.incoming fetched (head_trunk on) (head_trunk (on.same refs)) trunk_names.2.1 there

theorem pull_later {tip : Id} (is : tip ∈ [oldTip, newTip]) : ∃ r, r.objects = objects ∧
    (∀ name, Repository.IsOwn name -> r.ref? name = (ours tip).ref? name) ∧
      (standing (ours tip)).pull (later tip) "co" = (((standing r).takeUp newTip).1,
        ((standing r).takeUp newTip).2.mapError (pullFault "co")) := by
  obtain ⟨r, offer, fetched, same, incoming, refs⟩ := fetch_later is
  exact ⟨r, same, refs, Workspace.pull_takes (ours_tracks tip).origin fetched incoming⟩

theorem read_later {tip : Id} (is : tip ∈ [oldTip, newTip]) :
    Workspace.read (later tip) (siteOf "co") (ours tip) = standing (ours tip) := by
  obtain ⟨_, _, _, _, tracked⟩ := volumes_read.2.2.2.2 tip is
  have files : readFiles (later tip) (siteOf "co") = (standing (ours tip)).files := by
    simp [readFiles, later, siteOf, Node.get?, Node.child?, List.lookup, checkout, standing]
  rw [Workspace.read, tracked, files]
  rfl

theorem clone_old : ∃ r branch, r.objects = objects ∧
    (∀ name, Repository.IsOwn name -> r.ref? name = (ours oldTip).ref? name) ∧
      Workspace.clone (theirs oldTip) = .ok (standing r, branch) := by
  obtain ⟨offers, _, default, held⟩ := offer_eq oldTip (by simp)
  obtain ⟨_, _, _, own⟩ := trunk_names
  let empty : Repository :=
    { loose := [(Repository.headName, .symbolic standardBranch)], objects := objects }
  obtain ⟨r, fetched, same⟩ := empty.fetch_held offers held
  have refs := own_refs fetched
  refine ⟨(r.setRef trunk (.direct oldTip)).setRef Repository.headName (.symbolic trunk), some trunk,
    same, fun name isOwn => ?_, ?_⟩
  · rw [Repository.ref?_setRef, Repository.ref?_setRef, refs name isOwn, ours_ref?]
    split
    next => rfl
    next apart =>
      rw [Repository.ref?, lookup_cons_if, if_neg apart]
      rfl
  · have wrote := checkout_old (r := (r.setRef trunk (.direct oldTip)).setRef Repository.headName
      (.symbolic trunk)) same
    exact clone_takes fetched rfl (peel_old same) default (by rw [own]) wrote

theorem clone_start : ∃ made dirs r, start.makeDirs "co" = .ok dirs ∧
    dirs.locate true "co" = .ok ["co"] ∧ cloneInto start "origin" "co" = .ok (made, standing r) ∧
      r.objects = objects ∧
        ∀ name, Repository.IsOwn name -> r.ref? name = (ours oldTip).ref? name := by
  obtain ⟨r, branch, same, refs, cloned⟩ := clone_old
  obtain ⟨read, settings, _, leads, _⟩ := volumes_read
  obtain ⟨_, _, opens⟩ := opened read settings rfl rfl
  obtain ⟨dirs, makes, place⟩ := Option.map_eq_some_iff.mp leads
  have makes : start.makeDirs "co" = .ok dirs := by
    cases there : start.makeDirs "co" with
    | ok other => simpa [there, Except.toOption] using makes
    | error fault => simp [there, Except.toOption] at makes
  obtain ⟨made, cloned⟩ := cloneInto_takes opens cloned makes place
  exact ⟨made, dirs, r, makes, place, cloned, same, refs⟩

def cloned (r : Repository) : Left where
  site := siteOf "co"
  workspace := standing r
  origin := some (theirs oldTip)
  foiled := none

theorem leaves_cloned : ∃ r, Leaves "origin" "co" start (cloned r) ∧ r.objects = objects ∧
    (∀ name, Repository.IsOwn name -> r.ref? name = (ours oldTip).ref? name) ∧
      (Git.sync start (some "origin") "co").result = .ok oldTip := by
  obtain ⟨made, dirs, r, makes, place, ran, same, refs⟩ := clone_start
  obtain ⟨read, settings, absent, _⟩ := volumes_read
  obtain ⟨_, _, opens⟩ := opened read settings rfl rfl
  have above : start.makeDirs ((Path.parent "co").getD "") = .ok start := by
    have up : (Path.parent "co").getD "" = "" := by cbv
    rw [up, makeDirs_empty]
  have head : (standing r).headId = .ok oldTip := by
    have own : (standing r).repository = r := rfl
    rw [Workspace.headId, own, head_trunk ((ours_on oldTip).same refs)]
    simp only [peel_old same]
  obtain ⟨answer, _⟩ := sync_clones absent above ran
  rw [head] at answer
  exact ⟨r, .cloned start start dirs made ["co"] _ _ absent above opens makes place ran, same, refs,
    answer⟩

theorem keeps_later {tip : Id} {w : Workspace} (is : tip ∈ [oldTip, newTip])
    (objects : w.repository.objects = objects)
    (refs : ∀ name, Repository.IsOwn name -> (ours tip).ref? name = w.repository.ref? name)
    (tracked : w.tracked = [leaf "f.rs"])
    (files : w.files = .dir [("f.rs", .file fileData.toByteArray)]) :
    w.Keeps (Workspace.read (later tip) (siteOf "co") (ours tip)) := by
  rw [read_later is]
  exact ⟨refs, .of_objects objects.symm, tracked.symm, fun _ => by rw [files]; rfl⟩

theorem leaves_refused : ∃ r, r.objects = objects ∧
    (∀ name, Repository.IsOwn name -> r.ref? name = (ours newTip).ref? name) ∧
      Leaves "origin" "co" (later oldTip)
        { site := siteOf "co", workspace := standing r, origin := some (theirs newTip)
          foiled := some (.plain (.badPath ".git")) } := by
  have is : oldTip ∈ [oldTip, newTip] := List.mem_cons_self
  obtain ⟨old, earlier, kept, known, _⟩ := leaves_cloned
  obtain ⟨r, same, refs, pulled⟩ := pull_later is
  obtain ⟨present, opens, origin⟩ := opened_later is
  have on := (ours_on oldTip).same refs
  have branch := trunk_names.2.1
  have took := takeUp_refused same on
  have moved : ((standing r).moveTo trunk newTip).repository =
      (r.setRef trunk (.direct newTip)).setRef Repository.headName (.symbolic trunk) := by
    simp only [Workspace.moveTo, branch, if_true, standing]
  have leaves : Leaves "origin" "co" (later oldTip) _ :=
    .pulled start _ (cloned old) (siteOf "co") (ours oldTip) earlier present opens rfl
      (ours_tracks oldTip) (keeps_later is kept (fun name own => (known name own).symm) rfl rfl)
  have ahead : ((standing r).moveTo trunk newTip).repository.head ≠
      (standing (ours oldTip)).repository.head := by
    obtain ⟨_, _, _, _, _, apart⟩ := contents_hold
    have stood : (standing (ours oldTip)).repository.head = .found trunk oldTip :=
      head_trunk (ours_on oldTip)
    rw [stood, head_trunk (on.moveTo newTip)]
    simpa using Ne.symm apart
  rw [read_later is, pulled, took, origin, Workspace.foiledBy_moved ahead] at leaves
  refine ⟨((standing r).moveTo trunk newTip).repository, ?_, fun name own => ?_, leaves⟩
  · exact (Repository.moveTo_objects (standing r) trunk newTip).trans same
  · rw [moved, Repository.ref?_setRef, Repository.ref?_setRef, refs name own, ours_ref?, ours_ref?]
    split
    next => rfl
    next => split <;> rfl

theorem leaves_done : ∃ r, r.objects = objects ∧
    Leaves "origin" "co" (later newTip)
      { site := siteOf "co", workspace := standing r, origin := some (theirs newTip)
        foiled := some (.plain (.badPath ".git")) } ∧
    (Git.sync (later newTip) (some "origin") "co").result = .ok newTip := by
  have is : newTip ∈ [oldTip, newTip] := List.mem_cons_of_mem _ List.mem_cons_self
  obtain ⟨old, kept, known, earlier⟩ := leaves_refused
  obtain ⟨r, same, refs, pulled⟩ := pull_later is
  obtain ⟨present, opens, origin⟩ := opened_later is
  have on := (ours_on newTip).same refs
  have took := takeUp_done same on
  have leaves : Leaves "origin" "co" (later newTip) _ :=
    .pulled (later oldTip) _ _ (siteOf "co") (ours newTip) earlier present opens rfl
      (ours_tracks newTip) (keeps_later is kept (fun name own => (known name own).symm) rfl rfl)
  have still : (standing r).repository.head = (standing (ours newTip)).repository.head :=
    (head_trunk on).trans (head_trunk (ours_on newTip)).symm
  rw [read_later is, pulled, took, origin, Workspace.foiledBy_same still] at leaves
  refine ⟨r, same, leaves, ?_⟩
  rw [sync_pulls present, (pull_read opens).1, read_later is, pulled, took]
  rfl

theorem clone_reported : ∃ l, Leaves "origin" "co" start l ∧ l.workspace.repository.Tidy ∧
    (Git.sync start (some "origin") "co").result = .ok oldTip ∧ l.workspace.headId = .ok oldTip ∧
      ∃ commit, l.workspace.repository.object? oldTip = some (.commit commit) ∧
        l.workspace.Shows commit := by
  obtain ⟨r, leaves, same, _, told⟩ := leaves_cloned
  obtain ⟨head, _, _, ⟨commit, there, shows, _⟩, _⟩ := reported_sync leaves (tidy same) told
  exact ⟨_, leaves, tidy same, told, head, commit, there, (shows rfl).1⟩

/-- A sync could not write the files of the new commit, and the next one reports that commit. The
files are still those of the old one. -/
theorem unwritten_reported : ∃ l, Leaves "origin" "co" (later newTip) l ∧
    l.workspace.repository.Tidy ∧
    (Git.sync (later newTip) (some "origin") "co").result = .ok newTip ∧
    l.workspace.repository.object? newTip = some (.commit newCommit) ∧
    l.workspace.repository.leaves newCommit.tree = .ok [leaf ".git"] ∧
    l.workspace.tracked = [leaf "f.rs"] ∧ ¬ l.workspace.Shows newCommit := by
  obtain ⟨r, same, leaves, told⟩ := leaves_done
  obtain ⟨_, _, there, tree, _⟩ := contents_hold
  obtain ⟨head, _⟩ := leaves.tells (tidy same) told
  obtain ⟨commit, own, _, stale⟩ := (leaves.sound (tidy same)).tells head
  have commit_new : r.object? newTip = some (.commit newCommit) := (object_eq same _).trans there
  obtain rfl : commit = newCommit := by
    cases own.symm.trans commit_new
    rfl
  exact ⟨_, leaves, tidy same, told, commit_new, leaves_of same tree, rfl, stale ".git" rfl⟩

end Unwritable

end FleetSearch.Git
