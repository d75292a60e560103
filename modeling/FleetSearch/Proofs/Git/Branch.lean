import FleetSearch.Git.Sync
import FleetSearch.Proofs.Git.Leaves
import Mathlib.Logic.Relation

set_option autoImplicit false

/-!
Where the checked out branch stands. A fetch brings objects and moves the branches of the origin,
never `HEAD` or a branch of its own; a tip that is taken up moves the checked out branch forward or
leaves everything as it is, and a checkout that is refused comes after the move.
-/

namespace FleetSearch.Git

open FleetSearch.Disk

namespace Repository

variable {r s : Repository} {name : String} {id : Id}

theorem lookup_setEntry {A : Type} (key other : String) (value : A) (entries : List (String × A)) :
    (setEntry key value entries).lookup other =
      if other = key then some value else entries.lookup other := by
  rw [setEntry, lookup_cons_if]
  split
  next => rfl
  next apart =>
    induction entries with
    | nil => rfl
    | cons entry rest ih =>
      obtain ⟨own, old⟩ := entry
      rw [lookup_cons_if]
      by_cases gone : own = key
      next =>
        rw [List.filter_cons_of_neg (by simpa using gone), ih, if_neg (gone ▸ apart)]
      next =>
        rw [List.filter_cons_of_pos (by simpa using gone), lookup_cons_if, ih]

theorem ref?_setRef (r : Repository) (name other : String) (ref : Ref) :
    (r.setRef name ref).ref? other = if other = name then some ref else r.ref? other := by
  unfold ref? setRef
  rw [lookup_setEntry]
  by_cases own : other = name
  next => rw [if_pos own, if_pos own]
  next => rw [if_neg own, if_neg own]

def IsOwn (name : String) : Prop :=
  name = headName ∨ isBranch name = true

-- `HEAD` is on branch `name` or, if that is `HEAD` itself, on none; and `ref` is what stands there.
structure On (r : Repository) (name : String) (ref : Option Ref) : Prop where
  attached : name ≠ headName -> isBranch name = true ∧ r.ref? headName = some (.symbolic name)
  there : r.ref? name = ref

theorem On.own {ref : Option Ref} (on : r.On name ref) : IsOwn name := by
  by_cases detached : name = headName
  next => exact .inl detached
  next => exact .inr (on.attached detached).1

theorem On.same {ref : Option Ref} (on : r.On name ref)
    (same : ∀ name, IsOwn name -> s.ref? name = r.ref? name) : s.On name ref := by
  refine ⟨fun apart => ?_, by rw [same name on.own, on.there]⟩
  obtain ⟨branch, attached⟩ := on.attached apart
  exact ⟨branch, by rw [same headName (.inl rfl), attached]⟩

theorem isName_head : Ref.isName headName = true := by
  decide +kernel

theorem isBranch_head : isBranch headName = false := by
  decide +kernel

theorem follow_direct {hops : Nat} (valid : Ref.isName name = true)
    (there : r.ref? name = some (.direct id)) : r.follow hops name = .found name id := by
  unfold follow
  simp [valid, there]

theorem follow_symbolic {hops : Nat} {next : String} (valid : Ref.isName name = true)
    (there : r.ref? name = some (.symbolic next)) :
    r.follow (hops + 1) name = r.follow hops next := by
  rw [follow]
  simp [valid, there]

theorem head_attached (apart : name ≠ headName) {ref : Option Ref} (on : r.On name ref) :
    r.head = r.follow mostHops name :=
  follow_symbolic isName_head (on.attached apart).2

theorem On.head_same {ref : Option Ref} (on : r.On name ref) (other : s.On name ref)
    (plain : ∀ next, ref ≠ some (.symbolic next)) : s.head = r.head := by
  have follow_same : ∀ hops, s.follow hops name = r.follow hops name := by
    intro hops
    unfold follow
    rw [other.there, on.there]
    split
    next => rfl
    next =>
      cases ref with
      | none => rfl
      | some ref =>
        cases ref with
        | symbolic next => exact absurd rfl (plain next)
        | _ => rfl
  by_cases detached : name = headName
  next => rw [head, head, ← detached, follow_same]
  next => rw [head_attached detached on, head_attached detached other, follow_same]

theorem On.head_found (on : r.On name (some (.direct id))) (valid : Ref.isName name = true) :
    r.head = .found name id := by
  by_cases detached : name = headName
  next =>
    subst detached
    exact follow_direct valid on.there
  next => rw [head_attached detached on, follow_direct valid on.there]

theorem On.found (on : r.On name (some (.direct id))) {last : String} {tip : Id}
    (found : r.head = .found last tip) : last = name ∧ tip = id ∧ Ref.isName name = true := by
  by_cases valid : Ref.isName name = true
  next =>
    rw [on.head_found valid] at found
    cases found
    exact ⟨rfl, rfl, valid⟩
  next =>
    by_cases detached : name = headName
    next => exact absurd (detached ▸ isName_head) valid
    next =>
      rw [head_attached detached on, follow] at found
      simp [valid] at found

theorem On.unborn (on : r.On name none) {last : String} {tip : Id} :
    r.head ≠ .found last tip := by
  intro found
  by_cases detached : name = headName
  next =>
    subst detached
    rw [head, follow] at found
    simp [on.there, isName_head] at found
  next =>
    rw [head_attached detached on, follow] at found
    split at found
    next => cases found
    next => simp [on.there] at found

theorem On.moveTo {w : Workspace} {ref : Option Ref} (on : w.repository.On name ref) (tip : Id) :
    (w.moveTo name tip).repository.On name (some (.direct tip)) := by
  simp only [Workspace.moveTo]
  by_cases detached : name = headName
  next =>
    subst detached
    rw [if_neg (by simp [isBranch_head])]
    exact ⟨fun apart => absurd rfl apart, by rw [ref?_setRef, if_pos rfl]⟩
  next =>
    obtain ⟨branch, _⟩ := on.attached detached
    rw [if_pos branch]
    refine ⟨fun _ => ⟨branch, by rw [ref?_setRef, if_pos rfl]⟩, ?_⟩
    rw [ref?_setRef, if_neg detached, ref?_setRef, if_pos rfl]

theorem moveTo_objects (w : Workspace) (name : String) (tip : Id) :
    (w.moveTo name tip).repository.objects = w.repository.objects := by
  unfold Workspace.moveTo
  split <;> rfl

def setRefs (r : Repository) (refs : List (String × Id)) : Repository :=
  refs.foldl (fun r (name, id) => r.setRef name (.direct id)) r

theorem ref?_setRefs {refs : List (String × Id)} {other : String}
    (apart : ∀ e ∈ refs, e.1 ≠ other) (r : Repository) :
    (r.setRefs refs).ref? other = r.ref? other := by
  induction refs generalizing r with
  | nil => rfl
  | cons e rest ih =>
    have later := ih fun e member => apart e (List.mem_cons_of_mem _ member)
    rw [setRefs, List.foldl_cons, ← setRefs, later,
      ref?_setRef, if_neg (Ne.symm (apart e List.mem_cons_self))]

theorem setRefs_rest (r : Repository) (refs : List (String × Id)) :
    (r.setRefs refs).objects = r.objects ∧ (r.setRefs refs).settings = r.settings := by
  induction refs generalizing r with
  | nil => exact ⟨rfl, rfl⟩
  | cons e rest ih =>
    obtain ⟨objects, settings⟩ := ih (r.setRef e.1 (.direct e.2))
    rw [setRefs, List.foldl_cons, ← setRefs]
    exact ⟨objects, settings⟩

-- A fetch loses nothing and sets no reference that is no target of a rule.
theorem fetch_ok {origin next : Repository} {rules : List FetchRule} {offer : Offer}
    (ran : r.fetch origin rules = .ok (next, offer)) :
    origin.offer = .ok offer ∧
      (next.objects = r.objects ∨ next.objects = (r.adopt origin.objects).objects) ∧
      next.settings = r.settings ∧
      ∀ other, (∀ rule ∈ rules, ∀ name, rule.targetOf? name ≠ some other) ->
        next.ref? other = r.ref? other := by
  unfold fetch at ran
  obtain ⟨found, offered, ran⟩ := bind_ok ran
  have finish : ∀ kept : Repository,
      (kept.objects = r.objects ∨ kept.objects = (r.adopt origin.objects).objects) ->
      kept.settings = r.settings -> (∀ other, kept.ref? other = r.ref? other) ->
      (kept.setRefs (rules.flatMap fun rule => (found.taken rule).filterMap fun (name, id) =>
        (rule.targetOf? name).map fun own => (own, id)), found) = (next, offer) ->
      origin.offer = .ok offer ∧
        (next.objects = r.objects ∨ next.objects = (r.adopt origin.objects).objects) ∧
        next.settings = r.settings ∧
        ∀ other, (∀ rule ∈ rules, ∀ name, rule.targetOf? name ≠ some other) ->
          next.ref? other = r.ref? other := by
    intro kept objects settings refs same
    obtain ⟨rfl, rfl⟩ := Prod.mk.inj same
    obtain ⟨unchanged, rest⟩ := setRefs_rest kept (rules.flatMap fun rule =>
      (found.taken rule).filterMap fun (name, id) => (rule.targetOf? name).map fun own => (own, id))
    refine ⟨offered, unchanged ▸ objects, rest.trans settings,
      fun other apart => (ref?_setRefs (fun e member => ?_) kept).trans (refs other)⟩
    obtain ⟨rule, among, taken⟩ := List.mem_flatMap.mp member
    obtain ⟨entry, _, target⟩ := List.mem_filterMap.mp taken
    obtain ⟨own, renamed, rfl⟩ := Option.map_eq_some_iff.mp target
    exact fun same => apart rule among entry.1 (same ▸ renamed)
  simp only at ran
  split at ran
  next => exact finish r (.inl rfl) rfl (fun _ => rfl) (Except.ok.inj ran)
  next =>
    split at ran
    next => cases ran
    next => exact finish _ (.inr rfl) rfl (fun _ => rfl) (Except.ok.inj ran)

theorem fetch_held {origin : Repository} {rules : List FetchRule} {offer : Offer}
    (offered : origin.offer = .ok offer)
    (held : ((rules.flatMap offer.taken).all fun e => r.has e.2) = true) :
    ∃ next, r.fetch origin rules = .ok (next, offer) ∧ next.objects = r.objects := by
  refine ⟨r.setRefs (rules.flatMap fun rule => (offer.taken rule).filterMap fun (name, id) =>
    (rule.targetOf? name).map fun own => (own, id)), ?_, (setRefs_rest r _).1⟩
  unfold fetch
  rw [offered]
  simp only [bind, Except.bind, held, if_true]
  rfl

theorem Within.of_objects (same : s.objects = r.objects) : r.Within s :=
  ⟨fun _ _ there => same ▸ there, Nat.le_of_eq (congrArg List.length same.symm)⟩

theorem within_fetch {origin next : Repository} {rules : List FetchRule} {offer : Offer}
    (ran : r.fetch origin rules = .ok (next, offer)) : r.Within next := by
  obtain ⟨_, same | adopted, _⟩ := fetch_ok ran
  · exact .of_objects same
  · exact (within_adopt r _).trans (.of_objects adopted)

theorem standard_target {name own : String}
    (target : (FetchRule.read standardRule).targetOf? name = some own) : ¬ IsOwn own := by
  have read : FetchRule.read standardRule =
      { source := "refs/heads/*".toList, target := some "refs/remotes/origin/*".toList } := by
    decide +kernel
  rw [read, FetchRule.targetOf?] at target
  obtain ⟨star, _, target⟩ := Option.bind_eq_some_iff.mp target
  have put : FetchRule.putStar "refs/remotes/origin/*".toList star =
      "refs/remotes/origin/".toList ++ star := by
    simp [FetchRule.putStar]
  simp only [Option.bind_eq_bind, Option.bind_some, Option.pure_def, Option.some.injEq, put] at target
  subst target
  rintro (same | branch)
  · have letters := congrArg String.toList same
    simp [headName] at letters
  · simp [isBranch, branchDir] at branch

end Repository

namespace History

def Parent (g : History) (a b : Id) : Prop :=
  ∃ parents, g.lookup a = some parents ∧ b ∈ parents

theorem lookup_without (g : History) (id other : Id) :
    (g.without id).lookup other = if other = id then none else g.lookup other := by
  unfold without
  induction g with
  | nil => split <;> rfl
  | cons entry rest ih =>
    obtain ⟨own, parents⟩ := entry
    by_cases gone : own = id
    next =>
      rw [List.filter_cons_of_neg (by simpa using gone), ih, lookup_cons_if]
      by_cases same : other = id
      next => rw [if_pos same, if_pos same]
      next => rw [if_neg same, if_neg same, if_neg (gone ▸ same)]
    next =>
      rw [List.filter_cons_of_pos (by simpa using gone), lookup_cons_if, ih, lookup_cons_if]
      by_cases same : other = own
      next => rw [if_pos same, if_pos same, if_neg (same ▸ gone)]
      next => rw [if_neg same, if_neg same]

theorem reach_unknown {g : History} {id : Id} {rest : List Id} (unknown : g.lookup id = none) :
    g.reach (id :: rest) = g.reach rest := by
  rw [reach]
  split
  next => rfl
  next parents there => cases unknown.symm.trans there

theorem reach_known {g : History} {id : Id} {rest parents : List Id}
    (known : g.lookup id = some parents) :
    g.reach (id :: rest) = id :: (g.without id).reach (parents ++ rest) := by
  rw [reach]
  split
  next unknown => cases known.symm.trans unknown
  next found there =>
    cases known.symm.trans there
    rfl

theorem reach_behind {g : History} {todo : List Id} {id : Id} (member : id ∈ g.reach todo) :
    ∃ start ∈ todo, Relation.ReflTransGen g.Parent start id := by
  induction g, todo using reach.induct with
  | case1 g => simp [reach] at member
  | case2 g first rest absent ih =>
    rw [reach_unknown absent] at member
    obtain ⟨start, among, path⟩ := ih member
    exact ⟨start, List.mem_cons_of_mem _ among, path⟩
  | case3 g first rest parents there ih =>
    rw [reach_known there] at member
    rcases List.mem_cons.mp member with rfl | later
    · exact ⟨id, List.mem_cons_self, .refl⟩
    · obtain ⟨start, among, path⟩ := ih later
      -- a path that leaves `first` out is a path
      have more : (g.without first).Parent ≤ g.Parent := by
        rintro a b ⟨own, known, parent⟩
        rw [lookup_without] at known
        split at known
        next => cases known
        next => exact ⟨own, known, parent⟩
      have path := Relation.ReflTransGen.mono more _ _ path
      rcases List.mem_append.mp among with parent | other
      · exact ⟨first, List.mem_cons_self, .head ⟨parents, there, parent⟩ path⟩
      · exact ⟨start, List.mem_cons_of_mem _ other, path⟩

theorem behind_of_isBehind {g : History} {a b : Id} (behind : g.isBehind a b = true) :
    Relation.ReflTransGen g.Parent b a := by
  obtain ⟨start, one, path⟩ := reach_behind (List.contains_iff_mem.mp behind)
  exact List.mem_singleton.mp one ▸ path

theorem course_upToDate {g : History} {head tip : Id} (same : g.course head tip = .upToDate) :
    Relation.ReflTransGen g.Parent head tip := by
  unfold course at same
  split at same
  next behind => exact behind_of_isBehind behind
  next => split at same <;> cases same

theorem course_forward {g : History} {head tip : Id} (ahead : g.course head tip = .forward) :
    Relation.ReflTransGen g.Parent tip head := by
  unfold course at ahead
  split at ahead
  next => cases ahead
  next =>
    split at ahead
    next behind => exact behind_of_isBehind behind
    next => cases ahead

theorem course_self {g : History} {id : Id} {parents : List Id}
    (known : g.lookup id = some parents) : g.course id id = .upToDate := by
  have behind : g.isBehind id id = true := by
    rw [isBehind, reach_known known]
    simp
  rw [course, if_pos behind]

theorem course_child {a b : Id} (apart : a ≠ b) : course [(a, []), (b, [a])] a b = .forward := by
  have first : List.lookup a [(a, []), (b, [a])] = some [] := by
    rw [lookup_cons_if, if_pos rfl]
  have second : List.lookup b [(a, []), (b, [a])] = some [a] := by
    rw [lookup_cons_if, if_neg (Ne.symm apart), lookup_cons_if, if_pos rfl]
  have old : isBehind [(a, []), (b, [a])] b a = false := by
    rw [isBehind, reach_known first, List.append_nil, reach]
    simpa using Ne.symm apart
  have new : isBehind [(a, []), (b, [a])] a b = true := by
    have kept : (without [(a, []), (b, [a])] b).lookup a = some [] := by
      rw [lookup_without, if_neg apart, first]
    rw [isBehind, reach_known second, List.append_nil, reach_known kept]
    simp
  rw [course, if_neg (by simp [old]), if_pos new]

end History

theorem Repository.history_lookup {r : Repository} {id : Id} {commit : Commit}
    (there : r.object? id = some (.commit commit)) :
    r.history.lookup id = some commit.parents := by
  obtain ⟨packed, here, unpacked⟩ := Option.bind_eq_some_iff.mp there
  unfold history
  clear there
  generalize r.objects = objects at here ⊢
  induction objects with
  | nil => cases here
  | cons entry rest ih =>
    obtain ⟨key, bytes⟩ := entry
    rw [lookup_cons_if] at here
    rw [List.filterMap_cons]
    by_cases own : id = key
    next =>
      subst own
      obtain rfl : bytes = packed := by simpa using here
      simp [unpacked]
    next =>
      rw [if_neg own] at here
      have later := ih here
      cases kind : Object.unpack? bytes with
      | none => simpa [kind] using later
      | some o =>
        cases o with
        | commit other =>
          simp only [kind]
          rw [lookup_cons_if, if_neg own]
          exact later
        | _ => simpa [kind] using later

namespace Workspace

inductive Taken (w : Workspace) (tip : Id) : Workspace -> Except PullFault Id -> Prop
  -- nothing is touched
  | refused (fault : PullFault) : Taken w tip w (.error fault)
  | upToDate (name : String) (id head goal : Id) (commit : Commit)
      (stands : w.repository.head = .found name id)
      (peeled : (w.repository.peel? id).map Prod.fst = some head)
      (wanted : w.repository.peel? tip = some (goal, commit))
      (behind : Relation.ReflTransGen w.repository.history.Parent head goal) :
    Taken w tip w (.ok head)
  | forward (name : String) (id head goal : Id) (commit : Commit) (next : Workspace)
      (stands : w.repository.head = .found name id)
      (peeled : (w.repository.peel? id).map Prod.fst = some head)
      (wanted : w.repository.peel? tip = some (goal, commit)) (moves : goal ≠ id)
      (ahead : Relation.ReflTransGen w.repository.history.Parent goal head)
      (wrote : (w.moveTo name goal).checkout commit = .ok next) : Taken w tip next (.ok goal)
  -- the branch has moved when the checkout is refused
  | stranded (name : String) (id head goal : Id) (commit : Commit) (fault : Fault)
      (stands : w.repository.head = .found name id)
      (peeled : (w.repository.peel? id).map Prod.fst = some head)
      (wanted : w.repository.peel? tip = some (goal, commit)) (moves : goal ≠ id)
      (ahead : Relation.ReflTransGen w.repository.history.Parent goal head)
      (foiled : (w.moveTo name goal).checkout commit = .error fault) :
    Taken w tip (w.moveTo name goal) (.error (.refused fault))

theorem takeUp_taken (w : Workspace) (tip : Id) :
    w.Taken tip (w.takeUp tip).1 (w.takeUp tip).2 := by
  unfold takeUp
  cases wanted : w.repository.peel? tip with
  | none => exact .refused _
  | some found =>
    obtain ⟨goal, commit⟩ := found
    cases stands : w.repository.head with
    | missing name => exact .refused _
    | broken name => exact .refused _
    | found name id =>
      simp only
      cases peeled : w.repository.peel? id with
      | none => exact .refused _
      | some found =>
        obtain ⟨head, own⟩ := found
        have peeled : (w.repository.peel? id).map Prod.fst = some head := by rw [peeled]; rfl
        simp only
        cases course : w.repository.history.course head goal with
        | upToDate =>
          exact .upToDate name id head goal commit stands peeled wanted
            (History.course_upToDate course)
        | diverged => exact .refused _
        | forward =>
          have ahead := History.course_forward course
          -- a branch that stands on the tip would be up to date
          have moves : goal ≠ id := by
            rintro rfl
            have there := Repository.object_of_peel wanted
            rw [Repository.peel_of_object there] at peeled
            cases peeled
            rw [History.course_self (Repository.history_lookup there)] at course
            cases course
          simp only
          cases wrote : (w.moveTo name goal).checkout commit with
          | ok next =>
            exact .forward name id head goal commit next stands peeled wanted moves ahead wrote
          | error fault =>
            exact .stranded name id head goal commit fault stands peeled wanted moves ahead wrote

end Workspace

end FleetSearch.Git
