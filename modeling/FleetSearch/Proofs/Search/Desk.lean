import FleetSearch.Proofs.Search.Granting

set_option autoImplicit false

/-!
A pool gives out its permits, and those that it tells of one, or of the close, go on when they come
to it. A permit is never lost on the way: one that its acquirer gives up before it took it goes to
the next, and what comes back after the close is free.
-/

namespace FleetSearch.Search

/-- A pool where whoever is told of a permit, or that there will be none, goes on in its own
time. -/
structure Desk where
  permits : Permits
  -- those who have been told and have not gone on yet
  told : List Nat := []
deriving DecidableEq

namespace Desk

open Permits (Act Fair)

def Holds (d : Desk) (id : Nat) : Prop :=
  d.permits.stateOf id = some .held ∧ id ∉ d.told

instance (d : Desk) (id : Nat) : Decidable (d.Holds id) :=
  inferInstanceAs (Decidable (_ ∧ _))

def giveBack (d : Desk) (id : Nat) : Desk :=
  { permits := d.permits.release id
    told := d.told ++ if d.permits.stateOf id = some .held then d.permits.queue.head?.toList else [] }

def leave (d : Desk) (id : Nat) (s : Acquirer) : Desk :=
  let rest := { d with told := d.told.filter (· != id) }.giveBack id
  { rest with permits := rest.permits.mark id s }

def act (d : Desk) : Act -> Desk
  | .acquire => { d with permits := d.permits.acquire }
  | .release id | .drop id => if id ∈ d.told then d else d.giveBack id
  | .cancel id =>
    if id ∈ d.told then d.leave id .cancelled else { d with permits := d.permits.cancel id }
  | .close => { permits := d.permits.close, told := d.told ++ d.permits.queue }

-- One that has been told goes on. It looks first whether the pool is closed.
def goOn (d : Desk) (id : Nat) : Desk :=
  if id ∈ d.told then
    if d.permits.closed then d.leave id .refused
    else { d with told := d.told.filter (· != id) }
  else d

inductive Step where
  | act (a : Act)
  | goOn (id : Nat)
deriving DecidableEq

def step (d : Desk) : Step -> Desk
  | .act a => d.act a
  | .goOn id => d.goOn id

def run (d : Desk) (steps : List Step) : Desk :=
  steps.foldl step d

def settle (d : Desk) : Desk :=
  d.run (d.told.map .goOn)

variable {width : Nat} {d : Desk} {id : Nat}

structure Kept (width : Nat) (d : Desk) : Prop where
  fair : d.permits.Fair width
  told : ∀ id ∈ d.told, d.permits.stateOf id = some .held ∨ d.permits.stateOf id = some .refused

theorem giveBack_nothing (none : d.permits.stateOf id ≠ some .held) : d.giveBack id = d := by
  rw [giveBack, if_neg none, List.append_nil, Permits.release, if_neg none]

theorem release_nothing (other : ¬ d.Holds id) : d.act (.release id) = d := by
  simp only [act]
  split
  next => rfl
  next resumed => exact giveBack_nothing fun holds => other ⟨holds, resumed⟩

theorem act_release (holds : d.Holds id) : d.act (.release id) = d.giveBack id :=
  if_neg holds.2

theorem cancel_nothing (idle : d.permits.stateOf id ≠ some .waiting) (untold : id ∉ d.told) :
    d.act (.cancel id) = d := by
  simp only [act]
  rw [if_neg untold, Permits.cancel, if_neg idle]

inductive Comes (d : Desk) : Desk -> Prop
  | nothing : Comes d d
  | asks : Comes d { d with permits := d.permits.acquire }
  | gives {id : Nat} (holds : d.Holds id) : Comes d (d.giveBack id)
  | leaves {id : Nat} {s : Acquirer} (told : id ∈ d.told) (out : s = .cancelled ∨ s = .refused) :
      Comes d (d.leave id s)
  | givesUp {id : Nat} (waits : d.permits.stateOf id = some .waiting) (untold : id ∉ d.told) :
      Comes d { d with permits := d.permits.cancel id }
  | closes : Comes d { permits := d.permits.close, told := d.told ++ d.permits.queue }
  | goesOn (id : Nat) (unclosed : d.permits.closed ≠ true) :
      Comes d { d with told := d.told.filter (· != id) }

theorem comes_release (d : Desk) (id : Nat) : Comes d (d.act (.release id)) := by
  by_cases holds : d.Holds id
  next =>
    rw [act_release holds]
    exact .gives holds
  next =>
    rw [release_nothing holds]
    exact .nothing

theorem comes_step (d : Desk) (s : Step) : Comes d (d.step s) := by
  cases s with
  | act a =>
    cases a with
    | acquire => exact .asks
    | release id => exact comes_release d id
    | drop id => exact comes_release d id
    | cancel id =>
      by_cases told : id ∈ d.told
      next =>
        rw [step, act, if_pos told]
        exact .leaves told (.inl rfl)
      next =>
        by_cases waits : d.permits.stateOf id = some .waiting
        next =>
          rw [step, act, if_neg told]
          exact .givesUp waits told
        next =>
          rw [step, cancel_nothing waits told]
          exact .nothing
    | close => exact .closes
  | goOn id =>
    rw [step, goOn]
    split
    next told =>
      split
      next => exact .leaves told (.inr rfl)
      next unclosed => exact .goesOn id unclosed
    next => exact .nothing

namespace Kept

theorem nobody (kept : d.Kept width) (closed : d.permits.closed = true) (id : Nat) :
    d.permits.stateOf id ≠ some .waiting := fun waits => by
  have member := (kept.fair.waits id).mpr waits
  rw [kept.fair.shut closed] at member
  cases member

theorem forget (kept : d.Kept width) (id : Nat) :
    ({ d with told := d.told.filter (· != id) } : Desk).Kept width :=
  ⟨kept.fair, fun j member => kept.told j (List.mem_of_mem_filter member)⟩

theorem giveBack (kept : d.Kept width) (gone : id ∉ d.told) : (d.giveBack id).Kept width := by
  refine ⟨kept.fair.release id, fun j member => ?_⟩
  show (d.permits.release id).stateOf j = _ ∨ (d.permits.release id).stateOf j = _
  by_cases holds : d.permits.stateOf id = some .held
  next =>
    rw [kept.fair.stateOf_release holds]
    simp only [Desk.giveBack, if_pos holds, List.mem_append] at member
    rcases member with before | next
    · rw [if_neg fun same : id = j => gone (same ▸ before)]
      split
      next => exact .inl rfl
      next => exact kept.told j before
    · have head := Option.mem_toList.mp next
      have waits := (kept.fair.waits j).mp (List.mem_of_head? head)
      have other : id ≠ j := fun same => by simp [← same, holds] at waits
      rw [if_neg other, if_pos head]
      exact .inl rfl
  next =>
    rw [Permits.release, if_neg holds]
    refine kept.told j ?_
    simpa [Desk.giveBack, holds] using member

theorem gone (kept : d.Kept width) (told : id ∈ d.told) :
    (d.permits.release id).stateOf id = some .released ∨
      (d.permits.release id).stateOf id = some .refused := by
  rcases kept.told id told with holds | refused
  · rw [kept.fair.stateOf_release holds, if_pos rfl]
    exact .inl rfl
  · rw [Permits.release, if_neg (by simp [refused])]
    exact .inr refused

theorem stateOf_leave (kept : d.Kept width) (told : id ∈ d.told) (s : Acquirer) (j : Nat) :
    (d.leave id s).permits.stateOf j =
      if id = j then some s else (d.permits.release id).stateOf j := by
  rcases kept.gone told with there | there <;> exact Permits.stateOf_mark there s j

theorem leave (kept : d.Kept width) (told : id ∈ d.told) {s : Acquirer}
    (out : s = .cancelled ∨ s = .refused) : (d.leave id s).Kept width := by
  have rest := (kept.forget id).giveBack (show id ∉ _ by simp)
  have state := kept.stateOf_leave told s
  refine ⟨?_, fun j member => ?_⟩
  · rcases kept.gone told with there | there <;> rcases out with rfl | rfl <;>
      exact rest.fair.mark there nofun nofun nofun nofun
  · rw [state]
    split
    next same =>
      have state := kept.told id told
      simp only [Desk.leave, Desk.giveBack, List.mem_append, List.mem_filter, ← same] at member
      rcases member with ⟨_, other⟩ | next
      · simp at other
      · split at next
        next =>
          have waits := (kept.fair.waits id).mp (List.mem_of_head? (Option.mem_toList.mp next))
          simp [waits] at state
        next => simp at next
    next => exact rest.told j member

theorem comes (kept : d.Kept width) {e : Desk} (comes : d.Comes e) : e.Kept width := by
  cases comes with
  | nothing => exact kept
  | asks =>
    exact ⟨kept.fair.acquire, fun id told =>
      (kept.told id told).imp Permits.stateOf_acquire Permits.stateOf_acquire⟩
  | gives holds => exact kept.giveBack holds.2
  | leaves told out => exact kept.leave told out
  | @givesUp id waits untold =>
    refine ⟨kept.fair.cancel id, fun j told => ?_⟩
    show (d.permits.cancel id).stateOf j = _ ∨ (d.permits.cancel id).stateOf j = _
    rw [Permits.stateOf_cancel waits, if_neg fun same : id = j => untold (same ▸ told)]
    exact kept.told j told
  | closes =>
    refine ⟨kept.fair.close, fun j told => ?_⟩
    show d.permits.close.stateOf j = _ ∨ d.permits.close.stateOf j = _
    rw [Fair.stateOf_close]
    split
    next => exact .inr rfl
    next idle =>
      rcases List.mem_append.mp told with before | waits
      · exact kept.told j before
      · exact absurd ((kept.fair.waits j).mp waits) idle
  | goesOn id => exact kept.forget id

theorem step (kept : d.Kept width) (s : Step) : (d.step s).Kept width :=
  kept.comes (comes_step d s)

theorem run (kept : d.Kept width) (steps : List Step) : (d.run steps).Kept width := by
  induction steps generalizing d with
  | nil => exact kept
  | cons s steps next => exact next (kept.step s)

end Kept

theorem Comes.closed {e : Desk} (comes : d.Comes e) (closed : d.permits.closed = true) :
    e.permits.closed = true := by
  cases comes with
  | nothing => exact closed
  | asks => exact (Permits.closed_acquire _).trans closed
  | @gives id => exact (Permits.closed_release _ id).trans closed
  | @leaves id => exact (Permits.closed_release _ id).trans closed
  | @givesUp id => exact (Permits.closed_cancel _ id).trans closed
  | closes => rfl
  | goesOn => exact closed

namespace Kept

theorem release_shut (kept : d.Kept width) (closed : d.permits.closed = true) {j : Nat}
    (holds : (d.permits.release id).stateOf j = some .held) :
    id ≠ j ∧ d.permits.stateOf j = some .held := by
  by_cases before : d.permits.stateOf id = some .held
  next =>
    rw [kept.fair.stateOf_release before, kept.fair.shut closed] at holds
    split at holds
    next => cases holds
    next other => exact ⟨other, by simpa using holds⟩
  next =>
    rw [Permits.release, if_neg before] at holds
    exact ⟨fun same => before (same ▸ holds), holds⟩

theorem leave_shut (kept : d.Kept width) (closed : d.permits.closed = true) (told : id ∈ d.told)
    {s : Acquirer} (out : s = .cancelled ∨ s = .refused) {j : Nat}
    (holds : (d.leave id s).Holds j) : d.Holds j := by
  obtain ⟨held, gone⟩ := holds
  rw [kept.stateOf_leave told] at held
  split at held
  next =>
    obtain rfl := Option.some.inj held
    simp at out
  next other =>
    refine ⟨(kept.release_shut closed held).2, fun member => gone ?_⟩
    exact List.mem_append_left _ (List.mem_filter.mpr ⟨member, by simpa using Ne.symm other⟩)

theorem comes_shut (kept : d.Kept width) (closed : d.permits.closed = true) {e : Desk}
    (comes : d.Comes e) {j : Nat} (holds : e.Holds j) : d.Holds j := by
  cases comes with
  | nothing => exact holds
  | asks =>
    obtain ⟨s, acquirers, refused⟩ := Permits.acquirers_acquire d.permits
    obtain ⟨held, gone⟩ := holds
    have held : d.permits.acquire.stateOf j = some .held := held
    rw [Permits.stateOf, acquirers, Permits.stateOf_concat, refused closed] at held
    split at held
    next => cases held
    next => exact ⟨held, gone⟩
  | gives =>
    refine ⟨(kept.release_shut closed holds.1).2, fun member => holds.2 ?_⟩
    exact List.mem_append_left _ member
  | leaves told out => exact kept.leave_shut closed told out holds
  | @givesUp id waits => exact absurd waits (kept.nobody closed id)
  | closes =>
    obtain ⟨held, gone⟩ := holds
    have held : d.permits.close.stateOf j = some .held := held
    rw [Fair.stateOf_close, if_neg (kept.nobody closed j)] at held
    exact ⟨held, fun member => gone (List.mem_append_left _ member)⟩
  | goesOn _ unclosed => exact absurd closed unclosed

theorem release_available (kept : d.Kept width) (closed : d.permits.closed = true) (id : Nat) :
    d.permits.available ≤ (d.permits.release id).available := by
  by_cases holds : d.permits.stateOf id = some .held
  next =>
    rw [Permits.release_alone holds (kept.fair.shut closed)]
    exact Nat.le_succ _
  next =>
    refine Nat.le_of_eq ?_
    rw [Permits.release, if_neg holds]

theorem comes_available (kept : d.Kept width) (closed : d.permits.closed = true) {e : Desk}
    (comes : d.Comes e) : d.permits.available ≤ e.permits.available := by
  cases comes with
  | asks => simp [Permits.acquire, closed]
  | @gives id => exact kept.release_available closed id
  | @leaves id => exact kept.release_available closed id
  | @givesUp id waits => exact absurd waits (kept.nobody closed id)
  | _ => exact Nat.le_refl _

theorem run_shut (kept : d.Kept width) (closed : d.permits.closed = true) (steps : List Step) :
    (d.run steps).permits.closed = true ∧
      d.permits.available ≤ (d.run steps).permits.available ∧
      ∀ j, (d.run steps).Holds j -> d.Holds j := by
  induction steps generalizing d with
  | nil => exact ⟨closed, Nat.le_refl _, fun _ => id⟩
  | cons s steps next =>
    have comes := comes_step d s
    obtain ⟨still, more, held⟩ := next (kept.step s) (comes.closed closed)
    exact ⟨still, Nat.le_trans (kept.comes_available closed comes) more,
      fun j holds => kept.comes_shut closed comes (held j holds)⟩

theorem told_goOn (kept : d.Kept width) (id : Nat) :
    (d.goOn id).told = d.told.filter (· != id) := by
  unfold Desk.goOn
  split
  next =>
    split
    next closed => simp [Desk.leave, Desk.giveBack, kept.fair.shut closed]
    next => rfl
  next gone =>
    refine (List.filter_eq_self.mpr fun j member => ?_).symm
    simpa using fun same : j = id => gone (same ▸ member)

theorem told_all (kept : d.Kept width) (ids : List Nat) :
    (ids.foldl Desk.goOn d).told = d.told.filter (· ∉ ids) := by
  induction ids generalizing d with
  | nil => simp
  | cons id ids next =>
    have later : (d.goOn id).Kept width := kept.step (.goOn id)
    rw [List.foldl_cons, next later, kept.told_goOn, List.filter_filter]
    refine List.filter_congr fun j _ => ?_
    by_cases same : j = id <;> simp [same]

theorem told_settle (kept : d.Kept width) : d.settle.told = [] := by
  rw [settle, Desk.run, List.foldl_map]
  refine (kept.told_all d.told).trans ?_
  simp

end Kept

theorem permits_goOn (spare : d.permits.closed = true -> d.permits.stateOf id = some .refused) :
    (d.goOn id).permits = d.permits := by
  unfold goOn
  split
  next =>
    split
    next closed =>
      have none : ¬ d.permits.stateOf id = some .held := by simp [spare closed]
      simp only [leave, giveBack, Permits.release, if_neg none]
      exact Permits.mark_same (spare closed)
    next => rfl
  next => rfl

theorem permits_settle
    (spare : d.permits.closed = true -> ∀ id ∈ d.told, d.permits.stateOf id = some .refused) :
    d.settle.permits = d.permits := by
  suffices ∀ (ids : List Nat) (e : Desk), e.permits = d.permits -> (∀ id ∈ ids, id ∈ d.told) ->
      (e.run (ids.map .goOn)).permits = d.permits from this _ d rfl fun _ => id
  intro ids
  induction ids with
  | nil => exact fun _ same _ => same
  | cons id ids next =>
    intro e same inside
    refine next _ (Eq.trans (permits_goOn fun closed => ?_) same)
      fun j member => inside j (List.mem_cons_of_mem id member)
    rw [same] at closed ⊢
    exact spare closed id (inside id List.mem_cons_self)

theorem settle_act (kept : d.Kept width) (calm : d.told = []) (a : Act) :
    (d.act a).settle = { permits := d.permits.act a } := by
  have told : (d.act a).settle.told = [] := (kept.step (.act a)).told_settle
  suffices permits : (d.act a).settle.permits = d.permits.act a by
    rw [← permits, ← told]
  have back : ∀ id, (d.giveBack id).settle.permits = d.permits.release id := fun id => by
    refine permits_settle fun closed j member => ?_
    have closed := (Permits.closed_release d.permits id).symm.trans closed
    simp [giveBack, calm, kept.fair.shut closed] at member
  cases a with
  | acquire =>
    refine permits_settle fun _ j member => ?_
    simp [act, calm] at member
  | release id =>
    simp only [act, calm, List.not_mem_nil, if_false]
    exact back id
  | drop id =>
    simp only [act, calm, List.not_mem_nil, if_false]
    exact back id
  | cancel id =>
    simp only [act, calm, List.not_mem_nil, if_false]
    exact permits_settle fun _ j member => nomatch member
  | close =>
    refine permits_settle fun _ j member => ?_
    have waits : d.permits.stateOf j = some .waiting := by
      simpa [act, calm, kept.fair.waits] using member
    show d.permits.close.stateOf j = _
    rw [Fair.stateOf_close, if_pos waits]

namespace Kept

theorem release_once (kept : d.Kept width) (id : Nat) : ¬ (d.act (.release id)).Holds id := by
  by_cases holds : d.Holds id
  next =>
    rintro ⟨still, -⟩
    rw [act_release holds, Desk.giveBack, kept.fair.stateOf_release holds.1, if_pos rfl] at still
    cases still
  next => rwa [release_nothing holds]

theorem release_to (kept : d.Kept width) (holds : d.permits.stateOf id = some .held) {next : Nat}
    (turn : d.permits.Next next) : (d.permits.release id).stateOf next = some .held := by
  have other : id ≠ next := fun same => by
    have waits := turn.1
    simp [← same, holds] at waits
  rw [kept.fair.stateOf_release holds, if_neg other, if_pos (kept.fair.head turn)]

theorem cancel_to (kept : d.Kept width) (told : id ∈ d.told)
    (holds : d.permits.stateOf id = some .held) {next : Nat} (turn : d.permits.Next next) :
    (d.act (.cancel id)).permits.stateOf next = some .held := by
  have other : id ≠ next := fun same => by
    have waits := turn.1
    simp [← same, holds] at waits
  simp only [Desk.act, if_pos told]
  rw [kept.stateOf_leave told, if_neg other]
  exact kept.release_to holds turn

theorem release_back (kept : d.Kept width) (closed : d.permits.closed = true)
    (holds : d.Holds id) :
    (d.act (.release id)).permits.available = d.permits.available + 1 ∧
      (d.act (.release id)).permits.stateOf id = some .released := by
  rw [act_release holds]
  refine ⟨?_, (kept.fair.stateOf_release holds.1 id).trans (if_pos rfl)⟩
  rw [Desk.giveBack, Permits.release_alone holds.1 (kept.fair.shut closed)]

end Kept

theorem start_kept {wanted : Nat} {p : Permits} (begun : Permits.start wanted = .ok p) :
    ({ permits := p } : Desk).Kept (max wanted 1) := by
  simp only [Permits.start] at begun
  split at begun
  next =>
    obtain rfl := Except.ok.inj begun
    exact ⟨⟨rfl, List.Pairwise.nil, fun id => ⟨nofun, nofun⟩, fun some => absurd rfl some, nofun,
      nofun⟩, nofun⟩
  next => cases begun

/-- At any moment each permit is free or with one acquirer; while the pool is open nobody waits
while one is free, and nobody is passed by who came later; a permit that comes back goes to the one
who waited longest, also one that is given up before it was taken. Only who has a permit gives it
back, and once. The close turns away all that wait and uses nothing up; after it nobody comes by a
permit, and those that are out still come back. -/
theorem permits_shared_out {wanted : Nat} {p : Permits} (begun : Permits.start wanted = .ok p)
    (steps : List Step) :
    let d := ({ permits := p } : Desk).run steps
    d.permits.available + d.permits.held = max wanted 1 ∧
      (∀ id, d.permits.stateOf id = some .waiting ->
        d.permits.available = 0 ∧ d.permits.closed = false) ∧
      (∀ i j, i < j -> d.permits.stateOf i = some .waiting ->
        d.permits.stateOf j ≠ some .held ∧ d.permits.stateOf j ≠ some .released) ∧
      (∀ id next, d.permits.Next next ->
        (d.Holds id -> (d.act (.release id)).permits.stateOf next = some .held) ∧
          (id ∈ d.told -> d.permits.stateOf id = some .held ->
            (d.act (.cancel id)).permits.stateOf next = some .held)) ∧
      (∀ id, d.act (.drop id) = d.act (.release id)) ∧
      (∀ id, ¬ d.Holds id -> d.act (.release id) = d) ∧
      (∀ id, ¬ (d.act (.release id)).Holds id) ∧
      (∀ id, d.permits.stateOf id ≠ some .waiting -> id ∉ d.told -> d.act (.cancel id) = d) ∧
      ((d.act .close).permits.closed = true ∧
        (d.act .close).permits.available = d.permits.available ∧
        ∀ id, (d.act .close).permits.stateOf id =
          if d.permits.stateOf id = some .waiting then some .refused
          else d.permits.stateOf id) ∧
      (d.permits.closed = true -> ∀ more,
        let e := d.run more
        (∀ id, e.permits.stateOf id ≠ some .waiting) ∧
          d.permits.available ≤ e.permits.available ∧
          ∀ id, e.Holds id -> d.Holds id ∧
            (e.act (.release id)).permits.available = e.permits.available + 1 ∧
            (e.act (.release id)).permits.stateOf id = some .released) ∧
      -- once all that were told have gone on, the pool is the one where each step is waited for
      d.settle.told = [] ∧
      (d.told = [] -> ∀ a, (d.act a).settle = { permits := d.permits.act a }) := by
  intro d
  have kept : d.Kept (max wanted 1) := (start_kept begun).run steps
  have alone : ∀ id, d.permits.stateOf id = some .waiting ->
      d.permits.available = 0 ∧ d.permits.closed = false := fun id waits => by
    refine ⟨kept.fair.spent (List.ne_nil_of_mem ((kept.fair.waits id).mpr waits)), ?_⟩
    exact Bool.eq_false_iff.mpr fun closed => kept.nobody closed id waits
  have passes : ∀ id next, d.permits.Next next ->
      (d.Holds id -> (d.act (.release id)).permits.stateOf next = some .held) ∧
        (id ∈ d.told -> d.permits.stateOf id = some .held ->
          (d.act (.cancel id)).permits.stateOf next = some .held) := by
    refine fun id next turn => ⟨fun holds => ?_, fun told holds => kept.cancel_to told holds turn⟩
    rw [act_release holds]
    exact kept.release_to holds.1 turn
  have after : d.permits.closed = true -> ∀ more,
      let e := d.run more
      (∀ id, e.permits.stateOf id ≠ some .waiting) ∧
        d.permits.available ≤ e.permits.available ∧
        ∀ id, e.Holds id -> d.Holds id ∧
          (e.act (.release id)).permits.available = e.permits.available + 1 ∧
          (e.act (.release id)).permits.stateOf id = some .released := by
    intro closed more e
    obtain ⟨still, more, held⟩ := kept.run_shut closed more
    have kept : e.Kept (max wanted 1) := kept.run _
    exact ⟨kept.nobody still, more, fun id holds => ⟨held id holds, kept.release_back still holds⟩⟩
  exact ⟨kept.fair.balance, alone, kept.fair.first, passes,
    fun _ => rfl, fun _ => release_nothing, kept.release_once, fun _ => cancel_nothing,
    ⟨rfl, rfl, Fair.stateOf_close d.permits⟩, after, kept.told_settle, settle_act kept⟩

theorem givenUp_passedOn :
    Permits.start 0 = .ok { available := 1 } ∧
      let d := ({ permits := { available := 1 } } : Desk).run [.act .acquire, .act .acquire,
        .act .acquire, .act .acquire, .act (.release 0), .act (.cancel 1), .goOn 2, .act .close]
      d.permits.available + d.permits.held = 1 ∧ d.permits.available = 0 ∧ d.told = [3] ∧
        d.Holds 2 ∧ (d.act (.release 2)).permits.available = 1 ∧
        (d.act (.cancel 2)) = d ∧ ¬ (d.run [.goOn 3, .act .acquire]).Holds 3 := by
  have begun : Permits.start 0 = .ok { available := 1 } := by decide
  refine ⟨begun, ?_⟩
  intro d
  obtain ⟨balance, -, -, -, -, -, -, idle, -, after, -, -⟩ := permits_shared_out begun [.act .acquire,
    .act .acquire, .act .acquire, .act .acquire, .act (.release 0), .act (.cancel 1), .goOn 2,
    .act .close]
  have closed : d.permits.closed = true := by decide
  have holds : d.Holds 2 := by decide
  have late : ¬ d.Holds 3 := by decide
  refine ⟨balance, by decide, by decide, holds, ?_, idle 2 (by decide) (by decide), fun held => ?_⟩
  · exact ((after closed []).2.2 2 holds).2.1
  · exact late ((after closed [.goOn 3, .act .acquire]).2.2 3 held).1

end Desk

end FleetSearch.Search
