import FleetSearch.Proofs.Disk.Leads
import FleetSearch.Proofs.Git.Ancestry
import FleetSearch.Proofs.Git.Failing

set_option autoImplicit false

namespace FleetSearch.Git

open FleetSearch.Disk

theorem readEntry_inside {bytes rest : List UInt8} {leaf : Leaf}
    (read : Index.readEntry? bytes = some (leaf, rest)) : leaf.path ≠ [] := by
  unfold Index.readEntry? at read
  simp only at read
  split at read
  next => cases read
  next =>
    obtain ⟨kind, _, read⟩ := Option.bind_eq_some_iff.mp read
    cases read
    simpa using Path.pieces_ne_nil _

theorem readEntries_inside {count : Nat} {bytes : List UInt8} {leaves : List Leaf}
    (read : Index.readEntries? count bytes = some leaves) : ∀ l ∈ leaves, l.path ≠ [] := by
  induction count generalizing bytes leaves with
  | zero =>
    cases read
    exact fun l member => by cases member
  | succ count ih =>
    obtain ⟨⟨first, rest⟩, one, read⟩ := Option.bind_eq_some_iff.mp read
    obtain ⟨more, others, read⟩ := Option.bind_eq_some_iff.mp read
    cases read
    intro l member
    rcases List.mem_cons.mp member with rfl | later
    · exact readEntry_inside one
    · exact ih others l later

theorem readTracked_inside (v : Volume) (site : Site) : ∀ l ∈ readTracked v site, l.path ≠ [] := by
  unfold readTracked
  cases found : (v.readBytes (Path.join (pathOf site.git) "index")).toOption.bind fun data =>
    Index.read? data.toList with
  | none => exact fun l member => by cases member
  | some leaves =>
    obtain ⟨data, _, read⟩ := Option.bind_eq_some_iff.mp found
    unfold Index.read? at read
    split at read
    next => cases read
    next =>
      simp only at read
      split at read
      next => cases read
      next => exact readEntries_inside read

namespace Workspace

variable {w found next made : Workspace} {v : Volume} {dir branch : String} {h tip goal : Id}
  {own commit : Commit}

theorem Unmoved.on (unmoved : w.Unmoved next) (spared : w.repository.SparesHead)
    {ref : Option Ref} (on : w.repository.On branch ref) : next.repository.On branch ref := by
  have leads : Relation.ReflTransGen w.repository.Links Repository.headName branch := by
    by_cases detached : branch = Repository.headName
    next => exact detached ▸ .refl
    next => exact .single (on.attached detached).2
  refine ⟨fun apart => ?_, (unmoved.refs branch (spared branch leads)).trans on.there⟩
  obtain ⟨named, attached⟩ := on.attached apart
  exact ⟨named, (unmoved.refs Repository.headName (spared _ .refl)).trans attached⟩

theorem checkout_moveTo (ran : w.checkout commit = .ok made) (name : String) (id : Id) :
    (w.moveTo name id).checkout commit =
      .ok { made with repository := (w.moveTo name id).repository } := by
  obtain ⟨own, _, bare, wrote⟩ := checkout_parts ran
  have within := Repository.Within.of_objects (Repository.moveTo_objects w name id)
  have same : (w.moveTo name id).repository.checkout commit.tree (w.moveTo name id).tracked
      (w.moveTo name id).files = .ok (made.tracked, made.files) := within.checkout wrote
  have sameBare : (w.moveTo name id).isBare = w.isBare := rfl
  rw [checkout, sameBare, own, if_neg Bool.false_ne_true, same, bare, own]
  rfl

structure Rests (w next : Workspace) (branch : String) (id : Id) : Prop where
  on : next.repository.On branch (some (.direct id))
  tracked : next.tracked = w.tracked
  files : next.files = w.files

structure Forwards (w next : Workspace) (dir branch : String) (h t : Id) (commit : Commit)
    (result : Except SyncFault Id) : Prop where
  behind : w.repository.Behind t h -> result = .ok h ∧ w.Rests next branch h
  ahead : w.repository.Behind h t -> ¬ w.repository.Behind t h ->
    (∃ made, w.checkout commit = .ok made) ->
    result = .ok t ∧ next.repository.On branch (some (.direct t)) ∧ w.Replaced next commit
  apart : ¬ w.repository.Behind t h -> ¬ w.repository.Behind h t ->
    result = .error (.diverged dir) ∧ w.Rests next branch h

section Tip

variable (on : w.repository.On branch (some (.direct h))) (valid : Ref.isName branch = true)
  (stored : w.repository.object? h = some (.commit own))
  (wanted : w.repository.peel? tip = some (goal, commit)) (addressed : w.repository.Addressed)

include on valid stored wanted addressed

theorem takeUp_behind (behind : w.repository.Behind goal h) : w.takeUp tip = (w, .ok h) := by
  have course := Repository.course_behind addressed (Repository.object_of_peel wanted) behind
  rw [takeUp]
  simp only [wanted, on.head_found valid, Repository.peel_of_object stored, course]

theorem takeUp_ahead (ahead : w.repository.Behind h goal) (apart : ¬ w.repository.Behind goal h)
    (writes : w.checkout commit = .ok made) :
    ∃ next, w.takeUp tip = (next, .ok goal) ∧ (w.moveTo branch goal).checkout commit = .ok next := by
  have course := Repository.course_ahead addressed (Repository.object_of_peel wanted) stored ahead
    apart
  have wrote := checkout_moveTo writes branch goal
  refine ⟨_, ?_, wrote⟩
  rw [takeUp]
  simp only [wanted, on.head_found valid, Repository.peel_of_object stored, course, wrote]

theorem takeUp_apart (apart : ¬ w.repository.Behind h goal)
    (other : ¬ w.repository.Behind goal h) : w.takeUp tip = (w, .error .diverged) := by
  have course := Repository.course_apart addressed (Repository.object_of_peel wanted) stored apart
    other
  rw [takeUp]
  simp only [wanted, on.head_found valid, Repository.peel_of_object stored, course]

theorem takeUp_forwards (inside : ∀ l ∈ w.tracked, l.path ≠ []) (tidy : w.repository.Tidy)
    (dir : String) : w.Forwards (w.takeUp tip).1 dir branch h goal commit
      ((w.takeUp tip).2.mapError (pullFault dir)) := by
  refine ⟨fun behind => ?_, fun ahead apart writes => ?_, fun apart other => ?_⟩
  · rw [takeUp_behind on valid stored wanted addressed behind]
    exact ⟨rfl, on, rfl, rfl⟩
  · obtain ⟨made, writes⟩ := writes
    obtain ⟨next, took, wrote⟩ := takeUp_ahead on valid stored wanted addressed ahead apart writes
    obtain ⟨_, repository, _, _⟩ := checkout_parts wrote
    have tidy := tidy.within (.of_objects (Repository.moveTo_objects w branch goal).symm)
    have replaced := replaced_of_checkout (w := w.moveTo branch goal) inside tidy wrote
    rw [took]
    exact ⟨rfl, repository ▸ on.moveTo goal, replaced.leaves, replaced.safe, replaced.written,
      replaced.only, replaced.kept⟩
  · rw [takeUp_apart on valid stored wanted addressed other apart]
    exact ⟨rfl, on, rfl, rfl⟩

end Tip

def SparesOwn (w : Workspace) : Prop :=
  w.files.file? [] = none ∧ ∀ rest, w.files.file? (".git" :: rest) = none

theorem Replaced.sparesOwn (replaced : w.Replaced next commit) (spared : w.SparesOwn)
    (inside : ∀ l ∈ next.tracked, l.path ≠ []) : next.SparesOwn := by
  constructor
  · by_contra there
    rcases replaced.only [] there with ⟨l, member, root⟩ | ⟨before, _⟩
    · exact inside l member root
    · exact before spared.1
  · intro rest
    by_contra there
    rcases replaced.only _ there with ⟨l, member, lies⟩ | ⟨before, _⟩
    · have safe := replaced.safe l member
      rw [Leaf.isSafe, lies, List.all_cons, isSafeName_own] at safe
      cases safe
    · exact before (spared.2 rest)

theorem Taken.sparesOwn {result : Except PullFault Id} (taken : w.Taken tip next result)
    (spared : w.SparesOwn) (inside : ∀ l ∈ w.tracked, l.path ≠ []) (tidy : w.repository.Tidy) :
    next.SparesOwn := by
  cases taken with
  | refused => exact spared
  | upToDate => exact spared
  | stranded => exact spared
  | forward name id head goal commit next stands peeled wanted moves ahead wrote =>
    have tidy := tidy.within (.of_objects (Repository.moveTo_objects w name goal).symm)
    have replaced := replaced_of_checkout (w := w.moveTo name goal) inside tidy wrote
    obtain ⟨_, repository, _, _⟩ := checkout_parts wrote
    have rooted := (Repository.leaves_apart (repository ▸ tidy) replaced.leaves).2
    exact replaced.sparesOwn spared rooted

def Retains (w : Workspace) (branch : String) (h : Id) : Prop :=
  ∃ goal commit, w.repository.On branch (some (.direct goal)) ∧
    w.repository.object? goal = some (.commit commit) ∧ w.repository.Behind h goal

theorem moveTo_retains {name : String} {id head : Id}
    (on : w.repository.On branch (some (.direct h)))
    (stored : w.repository.object? h = some (.commit own)) (addressed : w.repository.Addressed)
    (stands : w.repository.head = .found name id)
    (peeled : (w.repository.peel? id).map Prod.fst = some head)
    (wanted : w.repository.peel? tip = some (goal, commit))
    (ahead : Relation.ReflTransGen w.repository.history.Parent goal head) :
    (w.moveTo name goal).Retains branch h := by
  obtain ⟨rfl, rfl, _⟩ := on.found stands
  rw [Repository.peel_of_object stored] at peeled
  obtain rfl : id = head := by simpa using peeled
  rw [Repository.parent_of_history addressed] at ahead
  have within := Repository.Within.of_objects (Repository.moveTo_objects w name goal)
  exact ⟨goal, commit, on.moveTo goal, within.object? (Repository.object_of_peel wanted),
    within.behind ahead⟩

theorem Taken.retains {result : Except PullFault Id} (taken : w.Taken tip next result)
    (on : w.repository.On branch (some (.direct h)))
    (stored : w.repository.object? h = some (.commit own))
    (addressed : next.repository.Addressed) : next.Retains branch h := by
  replace addressed := addressed.of_objects taken.objects.symm
  cases taken with
  | refused => exact ⟨h, own, on, stored, .refl⟩
  | upToDate => exact ⟨h, own, on, stored, .refl⟩
  | forward name id head goal commit next stands peeled wanted moves ahead wrote =>
    obtain ⟨_, repository, _, _⟩ := checkout_parts wrote
    have retains := moveTo_retains on stored addressed stands peeled wanted ahead
    rwa [Retains, ← repository] at retains
  | stranded name id head goal commit fault stands peeled wanted moves ahead =>
    exact moveTo_retains on stored addressed stands peeled wanted ahead

theorem Pulled.retains {result : Except SyncFault Id} (pulled : found.Pulled v dir next result)
    (on : found.repository.On branch (some (.direct h))) (spared : found.repository.SparesHead)
    (stored : found.repository.object? h = some (.commit own))
    (addressed : next.repository.Addressed) : next.Retains branch h := by
  cases pulled with
  | unfetched => exact ⟨h, own, on, stored, .refl⟩
  | unmerged r offer url fetched =>
    have unmoved := Unmoved.fetched (w := found) fetched
    exact ⟨h, own, unmoved.on spared on, unmoved.objects.object? stored, .refl⟩
  | taken r offer url tip next result origin fetched incoming taken =>
    have unmoved := Unmoved.fetched (w := found) fetched
    exact taken.retains (unmoved.on spared on) (unmoved.objects.object? stored) addressed

end Workspace

/-- What pulls make of a workspace, one after the other. Each finds the branches and the objects as
the last one left them; anything else may have changed. -/
inductive Pulls (dir : String) (first : Workspace) : Workspace -> Prop
  | none : Pulls dir first first
  | pull (last : Workspace) (v : Volume) (site : Site) (r : Repository)
      (earlier : Pulls dir first last) (opened : openRepository v dir = .ok (site, r))
      (refs : ∀ name, Repository.IsOwn name -> r.ref? name = last.repository.ref? name)
      (objects : last.repository.Within r) (spared : r.SparesHead)
      (addressed : ((Workspace.read v site r).pull v dir).1.repository.Addressed) :
    Pulls dir first ((Workspace.read v site r).pull v dir).1

theorem Pulls.retains {dir branch : String} {first last : Workspace} {h : Id} {own : Commit}
    (pulls : Pulls dir first last) (on : first.repository.On branch (some (.direct h)))
    (stored : first.repository.object? h = some (.commit own)) :
    last.Retains branch h ∧ first.repository.Within last.repository := by
  induction pulls with
  | none => exact ⟨⟨h, own, on, stored, .refl⟩, .refl _⟩
  | pull last v site r earlier opened refs objects spared addressed ih =>
    obtain ⟨⟨goal, commit, on, stored, behind⟩, within⟩ := ih
    have pulled := (Workspace.read v site r).pull_pulled v dir
    have after := objects.trans pulled.within
    obtain ⟨next, last, on, stored, more⟩ :=
      pulled.retains (on.same refs) spared (objects.object? stored) addressed
    exact ⟨⟨next, last, on, stored, more.trans (after.behind behind)⟩, within.trans after⟩

structure StandsOn (v : Volume) (dir : String) (site : Site) (r : Repository) (branch : String)
    (id : Id) : Prop where
  opened : openRepository v dir = .ok (site, r)
  attached : branch ≠ Repository.headName
  on : r.On branch (some (.direct id))
  valid : Ref.isName branch = true
  stored : ∃ commit, r.object? id = some (.commit commit)
  spared : r.SparesHead

structure Fetches (v : Volume) (before r : Repository) (tip id : Id) (commit : Commit) : Prop where
  ran : ∃ url offer, before.settings.get? "remote.origin.url" = some url ∧
    fetchOrigin v before url = .ok (r, offer) ∧ r.incoming? r.rules offer = some tip
  wanted : r.peel? tip = some (id, commit)
  addressed : r.Addressed
  tidy : r.Tidy

theorem pull_fetched {v : Volume} {dir url : String} {site : Site} {before r : Repository}
    {offer : Offer} {tip : Id} (opened : openRepository v dir = .ok (site, before))
    (named : before.settings.get? "remote.origin.url" = some url)
    (fetched : fetchOrigin v before url = .ok (r, offer))
    (incoming : r.incoming? r.rules offer = some tip) :
    let w : Workspace := { Workspace.read v site before with repository := r }
    (Git.pull v dir).volume = (w.takeUp tip).1.write v site ∧
      (Git.pull v dir).result = (w.takeUp tip).2.mapError (pullFault dir) := by
  unfold Git.pull
  simp only [opened, named, fetched, incoming]
  exact ⟨rfl, rfl⟩

theorem Fetches.tip_of_origin {v : Volume} {before r origin : Repository} {branch url last : String}
    {tip id goal own : Id} {commit : Commit} (fetches : Fetches v before r tip goal commit)
    (on : before.On branch (some (.direct id))) (valid : Ref.isName branch = true)
    (attached : branch ≠ Repository.headName) (tracks : before.Tracks url)
    (opened : openOrigin v url = .ok origin) (there : origin.target branch = .found last own) :
    tip = own := by
  obtain ⟨remote, offer, named, fetched, incoming⟩ := fetches.ran
  obtain rfl : remote = url := Option.some.inj (named.symm.trans tracks.origin)
  obtain ⟨again, same, fetched⟩ := bind_ok fetched
  obtain rfl : again = origin := Except.ok.inj (same.symm.trans opened)
  have stood := on.head_found valid
  have stands := (on.same (own_refs (tracks.rules ▸ fetched))).head_found valid
  rw [tracks.incoming fetched stood stands (on.attached attached).1 there] at incoming
  exact (Option.some.inj incoming).symm

/-- A pull of a checkout that stands on `h` and fetches `t` leaves it alone, moves its branch to `t`
with all files, or fails, as the graph of the commits says; and after any number of pulls all that
lay behind the branch lies behind it still. -/
theorem pull_forwards {v : Volume} {dir branch : String} {site : Site} {before : Repository} {h : Id}
    (stands : StandsOn v dir site before branch h) :
    (∀ (r : Repository) (tip t : Id) (commit : Commit), Fetches v before r tip t commit ->
      (∀ (url last : String) (origin : Repository) (own : Id), before.Tracks url ->
        openOrigin v url = .ok origin -> origin.target branch = .found last own -> tip = own) ∧
      ∃ next : Workspace, (Git.pull v dir).volume = next.write v site ∧
        next.repository.objects = r.objects ∧
        (site.git = site.tree ++ [".git"] -> ∀ path,
          (readFiles (Git.pull v dir).volume site).file? path = next.files.file? path) ∧
        Workspace.Forwards { Workspace.read v site before with repository := r } next dir branch h t
          commit (Git.pull v dir).result) ∧
    (∀ last, Pulls dir (Workspace.read v site before) last ->
      ∃ goal, last.repository.On branch (some (.direct goal)) ∧ last.repository.Behind h goal ∧
        ∀ (id : Id) (commit : Commit), before.object? id = some (.commit commit) ->
          before.Behind id h -> last.repository.object? id = some (.commit commit) ∧
            last.repository.Behind id goal) ∧
    -- what a pull of such a row makes of a workspace is what it writes
    ∀ (u : Volume) (place : Site) (found : Repository),
      openRepository u dir = .ok (place, found) ->
      (Git.pull u dir).volume = ((Workspace.read u place found).pull u dir).1.write u place ∨
        (Git.pull u dir).volume = u ∧
          ((Workspace.read u place found).pull u dir).1 = Workspace.read u place found := by
  obtain ⟨opened, attached, on, valid, ⟨own, stored⟩, spared⟩ := stands
  refine ⟨fun r tip t commit fetches => ⟨fun url last origin own tracks opened there =>
    fetches.tip_of_origin on valid attached tracks opened there, ?_⟩, fun last pulls => ?_,
    fun u place found opens => ?_⟩
  · obtain ⟨url, offer, named, fetched, incoming⟩ := fetches.ran
    obtain ⟨volume, result⟩ := pull_fetched opened named fetched incoming
    have unmoved := Workspace.Unmoved.fetched (w := Workspace.read v site before) fetched
    have taken :=
      Workspace.takeUp_taken { Workspace.read v site before with repository := r } tip
    have inside := readTracked_inside v site
    refine ⟨_, volume, taken.objects, fun place path => ?_, ?_⟩
    · obtain ⟨rooted, away⟩ := taken.sparesOwn (files_read v site) inside fetches.tidy
      rw [volume]
      exact readFiles_written rooted away place (site_own opened place) v path
    · rw [result]
      exact Workspace.takeUp_forwards (unmoved.on spared on) valid (unmoved.objects.object? stored)
        fetches.wanted fetches.addressed inside fetches.tidy dir
  · obtain ⟨⟨goal, commit, onNow, _, behind⟩, within⟩ := pulls.retains on stored
    exact ⟨goal, onNow, behind, fun id old there under =>
      ⟨within.object? there, behind.trans (within.behind under)⟩⟩
  · obtain ⟨_, wrote | ⟨same, fault, kept⟩⟩ := pull_read opens
    · exact .inl wrote
    · exact .inr ⟨same, by rw [kept]⟩

namespace Forwarded

open Unwritable (idOf fileId oldTip newTip newTree oldTree fileData oldCommit newCommit entry text
  trunk settings config siteOf objectsOf objectDirsOf Spell)

def changedId : Id := idOf '7'
def otherTip : Id := idOf 'd'

def changedData : List UInt8 := Object.ascii "two\n"

-- the new commit changes a file, adds one and leaves one out; the other has no parent
def bodies : List (Char × List UInt8) :=
  Unwritable.bodies.take 3 ++
    [('7', Object.ascii "blob 4\x00" ++ changedData),
      ('c', Object.ascii "tree 64\x00100644 a.rs\x00" ++ List.replicate 20 0x77 ++
        Object.ascii "100644 g.rs\x00" ++ List.replicate 20 0x66),
      ('d', Object.ascii "commit 69\x00tree " ++ List.replicate 40 0x63 ++
        Object.ascii "\nauthor <>\ncommitter <>\n"),
      ('e', Object.ascii "tree 64\x00100644 a.rs\x00" ++ List.replicate 20 0x66 ++
        Object.ascii "100644 f.rs\x00" ++ List.replicate 20 0x66)]

def otherCommit : Commit where
  tree := newTree
  parents := []

def newEntries : List TreeEntry :=
  [{ entry "a.rs" with id := changedId }, entry "g.rs"]

def contents : List (Id × Object) :=
  Unwritable.contents.take 3 ++
    [(changedId, .blob changedData.toByteArray), (newTree, .tree newEntries),
      (otherTip, .commit otherCommit), (oldTree, .tree [entry "a.rs", entry "f.rs"])]

theorem bodies_read : Spell bodies contents := by
  unfold Spell
  decide +kernel

def newLeaves : List Leaf :=
  newEntries.map fun e => { path := [e.name], kind := e.kind, id := e.id }

def oldLeaves : List Leaf :=
  [entry "a.rs", entry "f.rs"].map fun e => { path := [e.name], kind := e.kind, id := e.id }

-- A checkout whose branch stands on a commit, with a file of its own, and an origin that stands on
-- the new commit.
def found (tip : Id) : Volume where
  root := .dir
    [("co", .dir
      [(".git", .dir [("HEAD", text "ref: refs/heads/main\n"), ("config", text settings),
          ("index", .file (Index.write oldLeaves).toByteArray), ("objects", objectDirsOf bodies),
          ("refs", .dir [("heads", .dir [("main", text (tip ++ "\n"))])])]),
        ("a.rs", .file fileData.toByteArray), ("f.rs", .file fileData.toByteArray),
        ("note", .file changedData.toByteArray)]),
      ("origin", .dir
        [(".git", .dir [("HEAD", text "ref: refs/heads/main\n"), ("objects", objectDirsOf bodies),
          ("refs", .dir [("heads", .dir [("main", text (newTip ++ "\n"))])])])])]

def ours (tip : Id) : Repository :=
  { Unwritable.ours tip with objects := objectsOf bodies }

def theirs : Repository where
  loose := [(Repository.headName, .symbolic trunk), (trunk, .direct newTip)]
  objects := objectsOf bodies

def offered : Offer where
  head := some newTip
  refs := [(trunk, newTip)]

theorem volumes_read : ∀ tip ∈ [oldTip, newTip, otherTip],
    Unwritable.reads (found tip) "origin" theirs = true ∧
    readSettings (found tip) "origin/.git" = some [] ∧
    Unwritable.reads (found tip) "co" (ours tip) = true ∧
    (found tip).locate true "co/.git/config" = .ok ["co", ".git", "config"] ∧
    readTracked (found tip) (siteOf "co") = oldLeaves := by
  decide +kernel

theorem offer_eq : theirs.offer = .ok offered ∧ theirs.target trunk = .found trunk newTip ∧
    ([FetchRule.read standardRule].flatMap offered.taken).all
      (fun e => ((objectsOf bodies).lookup e.2).isSome) = true := by
  decide +kernel

theorem contents_hold : contents.lookup fileId = some (.blob fileData.toByteArray) ∧
    contents.lookup changedId = some (.blob changedData.toByteArray) ∧
    contents.lookup oldTip = some (.commit oldCommit) ∧
    contents.lookup newTip = some (.commit newCommit) ∧
    contents.lookup otherTip = some (.commit otherCommit) ∧
    contents.lookup newTree = some (.tree newEntries) ∧
    oldTip ≠ newTip ∧ otherTip ≠ newTip ∧ otherTip ≠ oldTip ∧
    (bodies.map fun o => idOf o.1).Nodup := by
  decide +kernel

section Objects

variable {r : Repository} (same : r.objects = objectsOf bodies)

include same

theorem addressed : r.Addressed := by
  obtain ⟨_, _, _, _, _, _, _, _, _, once⟩ := contents_hold
  apply Repository.addressed_of_nodup
  rwa [same, objectsOf, List.map_map]

theorem tidy : r.Tidy := by
  apply Unwritable.tidy_of bodies_read same
  simp [contents, Unwritable.contents, newEntries, entry]

theorem old_behind (id : Id) : r.Behind id oldTip ↔ id = oldTip := by
  have there := (Unwritable.object_of bodies_read same oldTip).trans contents_hold.2.2.1
  simp [Repository.behind_iff there, oldCommit]

theorem new_behind (id : Id) : r.Behind id newTip ↔ id = newTip ∨ id = oldTip := by
  have there := (Unwritable.object_of bodies_read same newTip).trans contents_hold.2.2.2.1
  simp [Repository.behind_iff there, newCommit, old_behind same]

theorem other_behind (id : Id) : r.Behind id otherTip ↔ id = otherTip := by
  have there := (Unwritable.object_of bodies_read same otherTip).trans contents_hold.2.2.2.2.1
  simp [Repository.behind_iff there, otherCommit]

theorem leaves_new : r.leaves newCommit.tree = .ok newLeaves := by
  obtain ⟨_, _, _, _, _, tree, _⟩ := contents_hold
  rw [Repository.leaves, Repository.leavesBelow, Unwritable.object_of bodies_read same, newCommit,
    tree]
  simp only [Repository.leavesAmong, newEntries, entry]
  rfl

theorem nodes_new : newLeaves.mapM r.nodeOf =
    .ok [.file changedData.toByteArray, .file fileData.toByteArray] := by
  obtain ⟨file, changed, _⟩ := contents_hold
  have object := Unwritable.object_of bodies_read same
  simp only [newLeaves, newEntries, entry, List.map_cons, List.map_nil, List.mapM_cons,
    Repository.nodeOf, object, file, changed]
  rfl

end Objects

theorem opened {tip : Id} (is : tip ∈ [oldTip, newTip, otherTip]) :
    openRepository (found tip) "co" = .ok (siteOf "co", ours tip) ∧
      openOrigin (found tip) "origin" = .ok theirs := by
  obtain ⟨origin, none, own, place, _⟩ := volumes_read tip is
  have config := Unwritable.settings_at place rfl
  obtain ⟨_, opens, _⟩ := Unwritable.opened_of bodies_read own config rfl rfl
  obtain ⟨_, _, offers⟩ := Unwritable.opened_of bodies_read origin none rfl rfl
  exact ⟨opens, offers⟩

theorem ours_on (tip : Id) : (ours tip).On trunk (some (.direct tip)) :=
  (Unwritable.ours_on tip).same fun _ _ => rfl

theorem ours_tracks (tip : Id) : (ours tip).Tracks "origin" := by
  obtain ⟨url, rules, follows⟩ := Unwritable.ours_tracks tip
  exact ⟨url, rules, follows⟩

theorem stands {tip : Id} (is : tip ∈ [oldTip, newTip, otherTip]) :
    StandsOn (found tip) "co" (siteOf "co") (ours tip) trunk tip := by
  obtain ⟨apart, _, valid, _⟩ := Unwritable.trunk_names
  obtain ⟨_, _, old, new, other, _⟩ := contents_hold
  have object := Unwritable.object_of bodies_read (r := ours tip) rfl
  refine ⟨(opened is).1, apart, ours_on tip, valid, ?_,
    (ours_on tip).sparesHead nofun (ours_tracks tip).rules⟩
  rw [object]
  simp only [List.mem_cons, List.mem_nil_iff, or_false] at is
  rcases is with rfl | rfl | rfl
  · exact ⟨_, old⟩
  · exact ⟨_, new⟩
  · exact ⟨_, other⟩

-- every object is here already
theorem fetches {tip : Id} (is : tip ∈ [oldTip, newTip, otherTip]) : ∃ r,
    r.objects = objectsOf bodies ∧ Fetches (found tip) (ours tip) r newTip newTip newCommit := by
  obtain ⟨offers, there, held⟩ := offer_eq
  obtain ⟨_, branch, valid, _⟩ := Unwritable.trunk_names
  have tracks := ours_tracks tip
  have on := ours_on tip
  obtain ⟨r, fetched, same⟩ := (ours tip).fetch_held offers held
  have refs := own_refs fetched
  rw [← tracks.rules] at fetched
  have incoming := tracks.incoming fetched (on.head_found valid) ((on.same refs).head_found valid)
    branch there
  have ran : fetchOrigin (found tip) (ours tip) "origin" = .ok (r, offered) := by
    rw [fetchOrigin, (opened is).2]
    exact fetched
  have wanted := (Unwritable.object_of bodies_read same newTip).trans contents_hold.2.2.2.1
  exact ⟨r, same, ⟨"origin", offered, tracks.origin, ran, incoming⟩,
    Repository.peel_of_object wanted, addressed same, tidy same⟩

theorem pulled_once {tip : Id} (is : tip ∈ [oldTip, newTip, otherTip]) :
    Pulls "co" (Workspace.read (found tip) (siteOf "co") (ours tip))
      ((Workspace.read (found tip) (siteOf "co") (ours tip)).pull (found tip) "co").1 := by
  obtain ⟨r, same, fetched⟩ := fetches is
  obtain ⟨url, offer, named, ran, incoming⟩ := fetched.ran
  obtain ⟨opens, _, _, _, _, spared⟩ := stands is
  apply Pulls.pull _ _ _ _ .none opens (fun _ _ => rfl) (.refl _) spared
  rw [Workspace.pull_takes named ran incoming]
  exact addressed ((Workspace.takeUp_taken _ _).objects.trans same)

theorem safe_new : ∀ l ∈ newLeaves, l.isSafe = true := by
  have names : isSafeName "a.rs" = true ∧ isSafeName "g.rs" = true := by
    constructor <;> cbv
  simp [newLeaves, newEntries, entry, Leaf.isSafe, names]

theorem writes_new {w : Workspace} (same : w.repository.objects = objectsOf bodies)
    (own : w.isBare = false) : ∃ made, w.checkout newCommit = .ok made := by
  have wrote : w.repository.checkout newCommit.tree w.tracked w.files = .ok _ :=
    Repository.checkout_of (leaves_new same) safe_new (nodes_new same)
  rw [Workspace.checkout, own, if_neg Bool.false_ne_true, wrote]
  exact ⟨_, rfl⟩

-- The files that a checkout of the new commit makes of those in `found`.
def shown : List (String × Option (List UInt8)) :=
  [("a.rs", some changedData), ("f.rs", none), ("g.rs", some fileData), ("note", some changedData)]

theorem files_new {w next : Workspace} (same : next.repository.objects = objectsOf bodies)
    (replaced : w.Replaced next newCommit) (tracked : w.tracked = oldLeaves)
    (note : w.files.file? ["note"] = some (.file changedData.toByteArray)) :
    ∀ file ∈ shown, next.files.file? [file.1] =
      file.2.map fun data => .file data.toByteArray := by
  have now : next.tracked = newLeaves := Except.ok.inj (replaced.leaves.symm.trans (leaves_new same))
  obtain ⟨_, each⟩ := mapM_ok (nodes_new same)
  have written : ∀ l data, (l, .file data) ∈ newLeaves.zip
      [Node.file changedData.toByteArray, .file fileData.toByteArray] ->
      next.files.file? l.path = some (.file data) := by
    intro l data among
    obtain ⟨node, made, here⟩ := replaced.written l (now ▸ (List.of_mem_zip among).1)
    obtain rfl := Except.ok.inj (made.symm.trans (each _ among))
    exact here
  have gone : next.files.file? ["f.rs"] = none := by
    by_contra there
    rcases replaced.only ["f.rs"] there with ⟨l, member, lies⟩ | ⟨_, untracked⟩
    · rw [now] at member
      revert l
      decide +kernel
    · rw [tracked] at untracked
      revert untracked
      decide +kernel
  have kept : next.files.file? ["note"] = w.files.file? ["note"] := by
    apply replaced.kept
    · rw [tracked]
      decide +kernel
    · rw [now]
      decide +kernel
  intro file member
  simp only [shown, List.mem_cons, List.mem_nil_iff, or_false] at member
  rcases member with rfl | rfl | rfl | rfl
  · exact written _ _ List.mem_cons_self
  · exact gone
  · exact written _ _ (List.mem_cons_of_mem _ List.mem_cons_self)
  · exact kept.trans note

theorem three_ways :
    ((Git.pull (found oldTip) "co").result = .ok newTip ∧
      ∀ file ∈ shown, (readFiles (Git.pull (found oldTip) "co").volume (siteOf "co")).file? [file.1] =
        file.2.map fun data => .file data.toByteArray) ∧
    (Git.pull (found newTip) "co").result = .ok newTip ∧
    (Git.pull (found otherTip) "co").result = .error (.diverged "co") ∧
    ∃ last goal, Pulls "co" (Workspace.read (found oldTip) (siteOf "co") (ours oldTip)) last ∧
      last.repository.On trunk (some (.direct goal)) ∧ last.repository.Behind oldTip goal := by
  refine ⟨?_, ?_, ?_, ?_⟩
  · have is : oldTip ∈ [oldTip, newTip, otherTip] := by simp
    obtain ⟨r, same, fetched⟩ := fetches is
    obtain ⟨_, next, _, objects, read, forwards⟩ := (pull_forwards (stands is)).1 _ _ _ _ fetched
    have behind : r.Behind oldTip newTip := (new_behind same _).mpr (.inr rfl)
    have apart : ¬ r.Behind newTip oldTip := fun back =>
      contents_hold.2.2.2.2.2.2.1 ((old_behind same _).mp back).symm
    obtain ⟨told, _, replaced⟩ := forwards.ahead behind apart (writes_new same rfl)
    refine ⟨told, fun file member => ?_⟩
    obtain ⟨_, _, _, _, tracked⟩ := volumes_read oldTip is
    have note : (readFiles (found oldTip) (siteOf "co")).file? ["note"] =
        some (.file changedData.toByteArray) := by
      rfl
    rw [read rfl]
    exact files_new (objects.trans same) replaced tracked note file member
  · have is : newTip ∈ [oldTip, newTip, otherTip] := by simp
    obtain ⟨r, same, fetched⟩ := fetches is
    obtain ⟨_, next, _, _, _, forwards⟩ := (pull_forwards (stands is)).1 _ _ _ _ fetched
    exact (forwards.behind .refl).1
  · have is : otherTip ∈ [oldTip, newTip, otherTip] := by simp
    obtain ⟨r, same, fetched⟩ := fetches is
    obtain ⟨_, next, _, _, _, forwards⟩ := (pull_forwards (stands is)).1 _ _ _ _ fetched
    obtain ⟨_, _, _, _, _, _, _, new, old, _⟩ := contents_hold
    have ahead : ¬ r.Behind newTip otherTip := fun back => new ((other_behind same _).mp back).symm
    have behind : ¬ r.Behind otherTip newTip := fun back =>
      ((new_behind same _).mp back).elim new old
    exact (forwards.apart ahead behind).1
  · have is : oldTip ∈ [oldTip, newTip, otherTip] := by simp
    obtain ⟨goal, on, behind, _⟩ := (pull_forwards (stands is)).2.1 _ (pulled_once is)
    exact ⟨_, goal, pulled_once is, on, behind⟩

end Forwarded

end FleetSearch.Git
