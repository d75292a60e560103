import FleetSearch.Proofs.Checkout.Alike
import FleetSearch.Proofs.Sync.Lock
import Mathlib.Logic.Relation

set_option autoImplicit false

/-!
A checkout in use. Probes come, wait, look at the files and are released; syncs begin, write and
end; and all of this goes on in any order. Every step keeps count of the probes that have the tree,
and keeps for them what they have seen.
-/

namespace FleetSearch

open FleetSearch.Checkout FleetSearch.Search

structure Seen where
  volume : Disk.Volume
  status : Status

inductive Hold where
  | waiting
  | scanning (seen : Seen)
  | ended (seen : Seen) (answer : Except ProbeFault (Finding Candidates))
  | released

structure Visit where
  query : String
  options : Options
  hold : Hold

namespace Visit

def call (query : String) (options : Options) : Visit :=
  { query, options, hold := .waiting }

def seen? (v : Visit) : Option Seen :=
  match v.hold with
  | .scanning seen => some seen
  | .ended seen _ => some seen
  | _ => none

def hasTree (v : Visit) : Bool :=
  v.seen?.isSome

def waits (v : Visit) : Bool :=
  match v.hold with
  | .waiting => true
  | _ => false

def enter (seen : Seen) (v : Visit) : Visit :=
  match v.hold with
  | .waiting => { v with hold := .scanning seen }
  | _ => v

end Visit

/-- The volume, the fleet, and the probes of one of its checkouts. -/
structure Site where
  volume : Disk.Volume
  fleet : Fleet
  visits : List Visit := []

namespace Site

def letIn (i : Nat) (s : Site) : Site :=
  match s.fleet.checkout? i with
  | none => s
  | some c =>
    if c.tree.writing then s
    else { s with visits := s.visits.map (Visit.enter { volume := s.volume, status := c.status }) }

inductive Step (i : Nat) (s : Site) : Site -> Prop
  -- a probe is called, looks at the files and is released
  | probe (query : String) (options : Options) :
    Step i s
      (letIn i { s with
        fleet := s.fleet.borrow i
        visits := s.visits ++ [.call query options] })
  | scan (j : Nat) (c : Checkout) (visit : Visit) (seen : Seen) (there : s.visits[j]? = some visit)
      (has : visit.hold = .scanning seen) (here : s.fleet.checkout? i = some c) :
    Step i s
      { s with
        visits := s.visits.set j { visit with
          hold := .ended seen (Checkout.probe s.volume c.dir c.repo.excludeDotFiles visit.query
            visit.options) } }
  | release (j : Nat) (visit : Visit) (seen : Seen) (answer : Except ProbeFault (Finding Candidates))
      (there : s.visits[j]? = some visit) (ended : visit.hold = .ended seen answer) :
    Step i s
      { s with
        fleet := s.fleet.giveBack i
        visits := s.visits.set j { visit with hold := .released } }
  -- anything else happens to the fleet
  | fleet (a : Fleet.Act) (other : a ≠ .borrow i) (apart : a ≠ .giveBack i) :
    Step i s (letIn i { s with fleet := s.fleet.act a })
  -- a sync is started that takes no permit from others
  | direct (asker : Sync.Asker) :
    Step i s { s with fleet := { s.fleet with permits := s.fleet.permits + 1 }.request i asker }
  -- a sync does a part of its work
  | write (k : Nat) (volume : Disk.Volume) (works : s.fleet.Works i k) : Step i s { s with volume }
  -- somebody writes elsewhere
  | elsewhere (c : Checkout) (volume : Disk.Volume) (here : s.fleet.checkout? i = some c)
      (alike : Alike c.dir s.volume volume) : Step i s { s with volume }

structure Idle (s : Site) (i : Nat) : Prop where
  free : ∃ c, s.fleet.checkout? i = some c ∧ c.tree = {}
  calm : ∀ k, ¬ s.fleet.Works i k
  queueing : s.fleet.Queueing
  unvisited : s.visits = []

structure Isolated (s : Site) (i : Nat) (c : Checkout) : Prop where
  here : s.fleet.checkout? i = some c
  queueing : s.fleet.Queueing
  locked : s.fleet.Locked i c.tree
  holders : c.tree.readers = s.visits.countP Visit.hasTree
  waiters : c.tree.blocked = s.visits.countP Visit.waits
  kept : ∀ visit ∈ s.visits, ∀ seen, visit.seen? = some seen ->
    Alike c.dir seen.volume s.volume ∧ seen.status = c.status
  answered : ∀ visit ∈ s.visits, ∀ seen answer, visit.hold = .ended seen answer ->
    answer = Checkout.probe seen.volume c.dir c.repo.excludeDotFiles visit.query visit.options

end Site

namespace Visit

def Keeps (seen : Seen) (v : Visit) : Prop :=
  v.seen? = some seen ∨ v.hold = .released

theorem Keeps.enter {seen other : Seen} {v : Visit} (keeps : v.Keeps seen) :
    v.enter other = v := by
  unfold Visit.enter
  split
  next waiting => simp [Keeps, seen?, waiting] at keeps
  next => rfl

theorem countP_enter (seen : Seen) (visits : List Visit) :
    (visits.map (enter seen)).countP hasTree = visits.countP hasTree + visits.countP waits ∧
      (visits.map (enter seen)).countP waits = 0 := by
  induction visits with
  | nil => exact ⟨rfl, rfl⟩
  | cons v rest ih =>
    obtain ⟨holders, waiters⟩ := ih
    cases hold : v.hold <;>
      simp_all [List.countP_cons, enter, hasTree, seen?, waits] <;> omega

end Visit

namespace Site

variable {i : Nat} {s t : Site} {c : Checkout}

theorem letIn_fleet (i : Nat) (s : Site) :
    (s.letIn i).fleet = s.fleet ∧ (s.letIn i).volume = s.volume := by
  unfold letIn
  split
  next => exact ⟨rfl, rfl⟩
  next => split <;> exact ⟨rfl, rfl⟩

theorem letIn_visit {seen : Seen} {j : Nat} {visit : Visit} (there : s.visits[j]? = some visit)
    (keeps : visit.Keeps seen) : (letIn i s).visits[j]? = some visit := by
  unfold letIn
  split
  next => exact there
  next =>
    split
    next => exact there
    next => simp [there, keeps.enter]

theorem letIn_isolated (here : s.fleet.checkout? i = some c) (queueing : s.fleet.Queueing)
    (locked : s.fleet.Locked i c.tree)
    (present : c.tree.readers + c.tree.blocked =
      s.visits.countP Visit.hasTree + s.visits.countP Visit.waits)
    (waiters : c.tree.writing = true -> c.tree.blocked = s.visits.countP Visit.waits)
    (kept : ∀ visit ∈ s.visits, ∀ seen, visit.seen? = some seen ->
      Alike c.dir seen.volume s.volume ∧ seen.status = c.status)
    (answered : ∀ visit ∈ s.visits, ∀ seen answer, visit.hold = .ended seen answer ->
      answer = Checkout.probe seen.volume c.dir c.repo.excludeDotFiles visit.query visit.options) :
    (s.letIn i).Isolated i c := by
  cases writing : c.tree.writing with
  | true =>
    have same : s.letIn i = s := by simp [letIn, here, writing]
    have waiters := waiters writing
    rw [same]
    exact ⟨here, queueing, locked, by omega, waiters, kept, answered⟩
  | false =>
    have entered : s.letIn i = { s with
        visits := s.visits.map (Visit.enter { volume := s.volume, status := c.status }) } := by
      simp [letIn, here, writing]
    have none := locked.entered writing
    obtain ⟨holders, waiters⟩ :=
      Visit.countP_enter { volume := s.volume, status := c.status } s.visits
    rw [entered]
    refine ⟨here, queueing, locked, by simp only [holders]; omega, by simp only [waiters]; omega,
      fun visit member seen saw => ?_, fun visit member seen answer ended => ?_⟩
    · obtain ⟨before, old, rfl⟩ := List.mem_map.mp member
      cases hold : before.hold with
      | waiting =>
        simp only [Visit.enter, hold, Visit.seen?, Option.some.injEq] at saw
        subst saw
        exact ⟨Alike.refl _ _, rfl⟩
      | _ => exact kept before old seen (by simpa [Visit.enter, hold] using saw)
    · obtain ⟨before, old, rfl⟩ := List.mem_map.mp member
      cases hold : before.hold with
      | waiting => simp [Visit.enter, hold] at ended
      | _ =>
        have still : before.enter { volume := s.volume, status := c.status } = before := by
          simp [Visit.enter, hold]
        rw [still] at ended ⊢
        exact answered before old seen answer ended

theorem Isolated.empty (isolated : s.Isolated i c) {k : Nat} (works : s.fleet.Works i k) :
    ∀ visit ∈ s.visits, visit.hasTree = false := by
  have writing := isolated.locked.writer.mpr ⟨k, works⟩
  have none := isolated.locked.apart writing
  rw [isolated.holders, List.countP_eq_zero] at none
  exact fun visit member => by simpa using none visit member

theorem Isolated.alike (isolated : s.Isolated i c) {volume : Disk.Volume}
    (same : s.visits.any Visit.hasTree = true -> Alike c.dir s.volume volume) :
    Isolated { s with volume } i c := by
  refine { isolated with kept := fun visit member seen saw => ?_ }
  obtain ⟨alike, status⟩ := isolated.kept visit member seen saw
  have held : s.visits.any Visit.hasTree = true :=
    List.any_eq_true.mpr ⟨visit, member, by simp [Visit.hasTree, saw]⟩
  exact ⟨alike.trans (same held), status⟩

namespace Step

theorem probe_isolated (isolated : s.Isolated i c) (query : String) (options : Options) :
    (letIn i { s with
        fleet := s.fleet.borrow i
        visits := s.visits ++ [.call query options] }).Isolated i
      { c with tree := c.tree.borrow } := by
  have holders : (s.visits ++ [Visit.call query options]).countP Visit.hasTree = c.tree.readers := by
    rw [List.countP_append, ← isolated.holders]
    rfl
  have waiters : (s.visits ++ [Visit.call query options]).countP Visit.waits =
      c.tree.blocked + 1 := by
    rw [List.countP_append, ← isolated.waiters]
    rfl
  refine letIn_isolated (Fleet.borrow_checkout isolated.here)
    ⟨isolated.queueing.once, isolated.queueing.queued⟩ isolated.locked.borrow ?_ ?_ ?_ ?_
  · rw [holders, waiters]
    cases writing : c.tree.writing with
    | true => simp only [Fleet.borrow_of_writing writing]
    | false =>
      simp only [Fleet.borrow_of_calm writing]
      omega
  · intro writing
    have before : c.tree.writing = true := by
      by_contra calm
      rw [Fleet.borrow_of_calm (by simpa using calm)] at writing
      exact calm writing
    rw [waiters, Fleet.borrow_of_writing before]
  · intro visit member seen saw
    rcases List.mem_append.mp member with member | last
    · exact isolated.kept visit member seen saw
    · obtain rfl := List.mem_singleton.mp last
      cases saw
  · intro visit member seen answer ended
    rcases List.mem_append.mp member with member | last
    · exact isolated.answered visit member seen answer ended
    · obtain rfl := List.mem_singleton.mp last
      cases ended

theorem scan_isolated (isolated : s.Isolated i c) {j : Nat} {visit : Visit} {seen : Seen}
    (there : s.visits[j]? = some visit) (has : visit.hold = .scanning seen) :
    Isolated { s with
      visits := s.visits.set j { visit with
        hold := .ended seen (Checkout.probe s.volume c.dir c.repo.excludeDotFiles visit.query
          visit.options) } } i c := by
  have member := List.mem_of_getElem? there
  have saw : visit.seen? = some seen := by simp [Visit.seen?, has]
  obtain ⟨alike, status⟩ := isolated.kept visit member seen saw
  refine { isolated with holders := ?_, waiters := ?_, kept := ?_, answered := ?_ }
  · have held : visit.hasTree = true := by simp [Visit.hasTree, saw]
    rw [isolated.holders]
    exact (Nat.add_right_cancel (countP_set Visit.hasTree _ there held rfl)).symm
  · have quiet : visit.waits = false := by simp [Visit.waits, has]
    rw [isolated.waiters]
    exact (Nat.add_right_cancel (countP_set Visit.waits _ there quiet rfl)).symm
  · intro other later saw own
    rcases List.mem_or_eq_of_mem_set later with old | rfl
    · exact isolated.kept other old saw own
    · obtain rfl : seen = saw := by simpa [Visit.seen?] using own
      exact ⟨alike, status⟩
  · intro other later saw answer ended
    rcases List.mem_or_eq_of_mem_set later with old | rfl
    · exact isolated.answered other old saw answer ended
    · cases ended
      exact (alike.probe _ _ _).symm

theorem release_isolated (isolated : s.Isolated i c) {j : Nat} {visit : Visit} {seen : Seen}
    {answer : Except ProbeFault (Finding Candidates)} (there : s.visits[j]? = some visit)
    (ended : visit.hold = .ended seen answer) :
    Isolated { s with
      fleet := s.fleet.giveBack i
      visits := s.visits.set j { visit with hold := .released } } i
      { c with tree := c.tree.giveBack } := by
  have held : visit.hasTree = true := by simp [Visit.hasTree, Visit.seen?, ended]
  have quiet : visit.waits = false := by simp [Visit.waits, ended]
  refine ⟨Fleet.giveBack_checkout isolated.here,
    ⟨isolated.queueing.once, isolated.queueing.queued⟩, isolated.locked.giveBack, ?_, ?_, ?_, ?_⟩
  · have fewer := countP_set Visit.hasTree { visit with hold := .released } there held rfl
    rw [← isolated.holders] at fewer
    exact (Nat.eq_sub_of_add_eq fewer).symm
  · rw [Tree.giveBack, isolated.waiters]
    exact (Nat.add_right_cancel (countP_set Visit.waits _ there quiet rfl)).symm
  · intro other later saw own
    rcases List.mem_or_eq_of_mem_set later with old | rfl
    · exact isolated.kept other old saw own
    · cases own
  · intro other later saw answer own
    rcases List.mem_or_eq_of_mem_set later with old | rfl
    · exact isolated.answered other old saw answer own
    · cases own

theorem fleet_isolated (isolated : s.Isolated i c) {g : Fleet} (queueing : g.Queueing)
    (touch : Fleet.Touch i c s.fleet g) :
    ∃ d, (letIn i { s with fleet := g }).Isolated i d ∧ d.dir = c.dir ∧ d.repo = c.repo := by
  have locked := fun {d : Checkout} => @touch.locked _ _ _ _ d isolated.locked
  have holders := isolated.holders
  have waiters := isolated.waiters
  cases touch with
  | stay after =>
    refine ⟨c, letIn_isolated after queueing (locked after) ?_ (fun _ => waiters) isolated.kept
      isolated.answered, rfl, rfl⟩
    show _ = s.visits.countP Visit.hasTree + s.visits.countP Visit.waits
    omega
  | claim k free after =>
    refine ⟨_, letIn_isolated after queueing (locked after) ?_ (fun _ => waiters) isolated.kept
      isolated.answered, rfl, rfl⟩
    show c.tree.readers + c.tree.blocked =
      s.visits.countP Visit.hasTree + s.visits.countP Visit.waits
    omega
  | finish k result worked after =>
    refine ⟨_, letIn_isolated after queueing (locked after) ?_ nofun (fun visit member seen saw => ?_)
      isolated.answered, rfl, rfl⟩
    · show c.tree.readers + c.tree.blocked + 0 =
        s.visits.countP Visit.hasTree + s.visits.countP Visit.waits
      omega
    · -- the sync that ends has had the tree alone
      have none := isolated.empty worked visit member
      simp [Visit.hasTree, saw] at none

theorem direct_isolated (isolated : s.Isolated i c) (asker : Sync.Asker) :
    Isolated { s with
      fleet := { s.fleet with permits := s.fleet.permits + 1 }.request i asker } i c := by
  have more : { s.fleet with permits := s.fleet.permits + 1 }.Queueing :=
    ⟨isolated.queueing.once, isolated.queueing.queued⟩
  have place : ({ s.fleet with permits := s.fleet.permits + 1 }.request i asker).checkout? i =
      some c := isolated.here
  have touch : Fleet.Touch i c s.fleet _ := .stay place fun _ => Fleet.works_request _ i asker
  exact { isolated with
    here := place
    queueing := more.request i asker
    locked := touch.locked isolated.locked place }

theorem isolated (step : Step i s t) (isolated : s.Isolated i c) :
    ∃ d, t.Isolated i d ∧ d.dir = c.dir ∧ d.repo = c.repo := by
  cases step with
  | probe query options => exact ⟨_, probe_isolated isolated query options, rfl, rfl⟩
  | scan j found visit seen there has here =>
    obtain rfl : c = found := Option.some.inj (isolated.here.symm.trans here)
    exact ⟨c, scan_isolated isolated there has, rfl, rfl⟩
  | release j visit seen answer there ended =>
    exact ⟨_, release_isolated isolated there ended, rfl, rfl⟩
  | fleet a other apart =>
    have touch := Fleet.act_touch isolated.queueing isolated.here a other apart
    exact fleet_isolated isolated (isolated.queueing.act a) touch
  | direct asker => exact ⟨c, direct_isolated isolated asker, rfl, rfl⟩
  | write k volume works =>
    refine ⟨c, isolated.alike fun held => ?_, rfl, rfl⟩
    obtain ⟨visit, member, has⟩ := List.any_eq_true.mp held
    simp [isolated.empty works visit member] at has
  | elsewhere found volume here alike =>
    obtain rfl : c = found := Option.some.inj (isolated.here.symm.trans here)
    exact ⟨c, isolated.alike fun _ => alike, rfl, rfl⟩

theorem quiet (step : Step i s t) (isolated : s.Isolated i c) {d : Checkout}
    (here : t.fleet.checkout? i = some d) (idle : ∀ k, ¬ s.fleet.Works i k) :
    Alike c.dir s.volume t.volume ∧ d.status = c.status := by
  have still : Alike c.dir s.volume s.volume := .refl c.dir s.volume
  have same : s.fleet.checkout? i = some d -> d.status = c.status := fun here => by
    rw [Option.some.inj (isolated.here.symm.trans here)]
  cases step with
  | probe query options =>
    obtain ⟨fleet, volume⟩ := letIn_fleet i { s with
      fleet := s.fleet.borrow i
      visits := s.visits ++ [.call query options] }
    rw [volume]
    rw [fleet, Fleet.borrow_checkout isolated.here] at here
    cases here
    exact ⟨still, rfl⟩
  | scan => exact ⟨still, same here⟩
  | release =>
    rw [Fleet.giveBack_checkout isolated.here] at here
    cases here
    exact ⟨still, rfl⟩
  | fleet a other apart =>
    obtain ⟨fleet, volume⟩ := letIn_fleet i { s with fleet := s.fleet.act a }
    rw [volume]
    rw [fleet] at here
    refine ⟨still, ?_⟩
    have touch := Fleet.act_touch isolated.queueing isolated.here a other apart
    cases touch with
    | stay after => rw [Option.some.inj (after.symm.trans here)]
    | claim k free after => rw [← Option.some.inj (after.symm.trans here)]
    | finish k result worked => exact absurd worked (idle k)
  | direct => exact ⟨still, same here⟩
  | write k volume works => exact absurd works (idle k)
  | elsewhere found volume place alike =>
    obtain rfl : c = found := Option.some.inj (isolated.here.symm.trans place)
    exact ⟨alike, same here⟩

theorem keeps (step : Step i s t) {seen : Seen} {j : Nat} {visit : Visit}
    (there : s.visits[j]? = some visit) (keeps : visit.Keeps seen) :
    ∃ later, t.visits[j]? = some later ∧ later.Keeps seen := by
  have same : ∃ later, s.visits[j]? = some later ∧ later.Keeps seen := ⟨visit, there, keeps⟩
  cases step with
  | probe query options =>
    obtain ⟨inside, _⟩ := List.getElem?_eq_some_iff.mp there
    refine ⟨visit, letIn_visit ?_ keeps, keeps⟩
    rw [List.getElem?_append_left inside, there]
  | scan l c other saw first has here =>
    by_cases own : l = j
    next =>
      subst own
      obtain ⟨inside, _⟩ := List.getElem?_eq_some_iff.mp there
      obtain rfl : visit = other := by simpa [there] using first
      have alike : saw = seen := by simpa [Visit.Keeps, Visit.seen?, has] using keeps
      exact ⟨_, List.getElem?_set_self inside, .inl (by rw [← alike]; rfl)⟩
    next => rwa [List.getElem?_set_ne own]
  | release l other saw answer first ended =>
    by_cases own : l = j
    next =>
      subst own
      obtain ⟨inside, _⟩ := List.getElem?_eq_some_iff.mp there
      exact ⟨_, List.getElem?_set_self inside, .inr rfl⟩
    next => rwa [List.getElem?_set_ne own]
  | fleet a => exact ⟨visit, letIn_visit there keeps, keeps⟩
  | direct | write | elsewhere => exact same

end Step

theorem Idle.isolated (idle : s.Idle i) : ∃ c, s.Isolated i c := by
  obtain ⟨c, here, free⟩ := idle.free
  have unvisited := idle.unvisited
  refine ⟨c, here, idle.queueing, ?_, ?_, ?_, ?_, ?_⟩
  · rw [free]
    exact Fleet.locked_free idle.calm
  all_goals simp [free, unvisited]

theorem Isolated.steps (isolated : s.Isolated i c)
    (steps : Relation.ReflTransGen (Step i) s t) : ∃ d, t.Isolated i d ∧ d.dir = c.dir := by
  induction steps with
  | refl => exact ⟨c, isolated, rfl⟩
  | tail _ step ih =>
    obtain ⟨d, before, same⟩ := ih
    obtain ⟨e, after, dir, _⟩ := step.isolated before
    exact ⟨e, after, dir.trans same⟩

end Site

end FleetSearch
