import FleetSearch.Proofs.Search.Turns
import FleetSearch.Proofs.Sync.Queue
import Mathlib.Logic.Relation

set_option autoImplicit false

/-!
Searches and syncs over the same checkouts. Each probe of a search asks for the tree of its
checkout when it starts and hands it back when it is released; whoever asks gets the tree as soon
as no sync writes it. Searches and syncs go on in any order, except that a probe does not end
before it has its tree.
-/

namespace FleetSearch

open FleetSearch.Search

inductive Loan.Stage where
  | asked
  | given
  | returned
deriving DecidableEq

/-- A probe of a search and the tree that it borrows. -/
structure Loan where
  run : Nat
  -- counts all repositories of the search
  place : Nat
  checkout : Nat
  stage : Loan.Stage
deriving DecidableEq

structure Traffic (P : Type) where
  searches : Runs P
  fleet : Fleet
  loans : List Loan := []

namespace Fleet

def isWritten (f : Fleet) (i : Nat) : Bool :=
  ((f.checkout? i).map fun c => c.tree.writing).getD false

end Fleet

namespace Loan

def call (run place checkout : Nat) : Loan :=
  { run, place, checkout, stage := .asked }

def enter (f : Fleet) (loan : Loan) : Loan :=
  match loan.stage with
  | .asked => if f.isWritten loan.checkout then loan else { loan with stage := .given }
  | _ => loan

def handBack (run place : Nat) (loan : Loan) : Loan :=
  if loan.run = run ∧ loan.place = place then { loan with stage := .returned } else loan

def asks (i : Nat) (loan : Loan) : Bool :=
  loan.checkout = i && loan.stage = .asked

def has (i : Nat) (loan : Loan) : Bool :=
  loan.checkout = i && loan.stage = .given

end Loan

namespace Traffic

variable {P : Type}

def letIn (t : Traffic P) : Traffic P :=
  { t with loans := t.loans.map (Loan.enter t.fleet) }

def ask (scope : Nat -> Nat -> Nat) (t : Traffic P) (k g : Nat) : Traffic P :=
  letIn { t with
    fleet := t.fleet.borrow (scope k g)
    loans := t.loans ++ [.call k g (scope k g)] }

def handBack (scope : Nat -> Nat -> Nat) (t : Traffic P) (k g : Nat) : Traffic P :=
  { t with
    fleet := t.fleet.giveBack (scope k g)
    loans := t.loans.map (Loan.handBack k g) }

def note (scope : Nat -> Nat -> Nat) (t : Traffic P) (n : Notice P) : Traffic P :=
  match n.event with
  | .probe g => t.ask scope n.run g
  | .fetch _ _ => t
  | .release g => t.handBack scope n.run g

def turn (sources : Nat -> List (Source P)) (scope : Nat -> Nat -> Nat) (t : Traffic P) (u : Turn) :
    Traffic P :=
  let next := t.searches.turn sources u
  next.2.foldl (note scope) { t with searches := next.1 }

def Ready (t : Traffic P) (u : Turn) : Prop :=
  ∀ k i r, u = .move k (.endProbe i) -> t.searches.runs[k]? = some r ->
    ∀ loan ∈ t.loans, loan.run = k -> loan.place = r.offset + i -> loan.stage ≠ .asked

inductive Step (sources : Nat -> List (Source P)) (scope : Nat -> Nat -> Nat) (t : Traffic P) :
    Traffic P -> Prop
  | turn (u : Turn) (ready : t.Ready u) : Step sources scope t (t.turn sources scope u)
  -- anything that has to do with syncs
  | fleet (a : Fleet.Act) (other : ∀ i, a ≠ .borrow i) (apart : ∀ i, a ≠ .giveBack i)
      (inside : ∀ repo asker, a = .request repo asker -> repo < t.fleet.checkouts.length) :
    Step sources scope t (letIn { t with fleet := t.fleet.act a })
  -- a sync that takes no permit from others
  | direct (i : Nat) (asker : Sync.Asker) (inside : i < t.fleet.checkouts.length) :
    Step sources scope t
      { t with fleet := { t.fleet with permits := t.fleet.permits + 1 }.request i asker }

structure Fresh (maxProbes nextLimit : Nat) (t : Traffic P) : Prop where
  searches : t.searches = Runs.idle maxProbes nextLimit
  loans : t.loans = []
  trees : ∀ i c, t.fleet.checkout? i = some c -> c.tree = {}
  jobs : t.fleet.jobs = []
  queue : t.fleet.queue = []
  permits : 0 < t.fleet.permits

structure Shared (fleet : Fleet) (loans : List Loan) : Prop where
  locked : ∀ i c, fleet.checkout? i = some c -> fleet.Locked i c.tree
  counted : ∀ i c, fleet.checkout? i = some c ->
    c.tree.readers = loans.countP (Loan.has i) ∧ c.tree.blocked = loans.countP (Loan.asks i)
  entered : ∀ loan ∈ loans, loan.stage = .asked -> fleet.isWritten loan.checkout = true

theorem countP_enter (f : Fleet) (i : Nat) (loans : List Loan) :
    (loans.map (Loan.enter f)).countP (Loan.has i) =
        loans.countP (Loan.has i) + (if f.isWritten i then 0 else loans.countP (Loan.asks i)) ∧
      (loans.map (Loan.enter f)).countP (Loan.asks i) =
        if f.isWritten i then loans.countP (Loan.asks i) else 0 := by
  induction loans with
  | nil => simp
  | cons loan rest ih =>
    obtain ⟨has, asks⟩ := ih
    simp only [List.map_cons, List.countP_cons, has, asks]
    by_cases here : loan.checkout = i
    next =>
      subst here
      cases stage : loan.stage <;> cases written : f.isWritten loan.checkout <;>
        simp [Loan.enter, Loan.has, Loan.asks, stage, written] <;> omega
    next =>
      have away : (loan.enter f).checkout ≠ i := by
        unfold Loan.enter
        split
        next => split <;> exact here
        next => exact here
      simp [Loan.has, Loan.asks, here, away]

theorem isWritten_of {f : Fleet} {i : Nat} {c : Checkout} (here : f.checkout? i = some c) :
    f.isWritten i = c.tree.writing := by
  simp [Fleet.isWritten, here]

theorem letIn_shared {fleet : Fleet} {loans : List Loan}
    (locked : ∀ i c, fleet.checkout? i = some c -> fleet.Locked i c.tree)
    (present : ∀ i c, fleet.checkout? i = some c -> c.tree.readers + c.tree.blocked =
      loans.countP (Loan.has i) + loans.countP (Loan.asks i))
    (waiters : ∀ i c, fleet.checkout? i = some c -> c.tree.writing = true ->
      c.tree.blocked = loans.countP (Loan.asks i)) :
    Shared fleet (loans.map (Loan.enter fleet)) := by
  refine ⟨locked, fun i c here => ?_, fun loan member asked => ?_⟩
  · obtain ⟨has, asks⟩ := countP_enter fleet i loans
    have present := present i c here
    rw [has, asks, isWritten_of here]
    cases writing : c.tree.writing with
    | true =>
      have waiters := waiters i c here writing
      simp only [if_true]
      omega
    | false =>
      have none := (locked i c here).entered writing
      simp only [Bool.false_eq_true, if_false]
      omega
  · obtain ⟨before, _, rfl⟩ := List.mem_map.mp member
    unfold Loan.enter at asked ⊢
    split at asked
    next stage =>
      split at asked
      next written => simp [written]
      next => cases asked
    next other => exact absurd asked (by simpa using other)

theorem locked_of_jobs {f g : Fleet} (same : g.jobs = f.jobs) {i : Nat} {t : Tree}
    (locked : f.Locked i t) : g.Locked i t := by
  have works : ∀ k, g.Works i k ↔ f.Works i k := fun k => by rw [Fleet.Works, Fleet.Works, same]
  refine ⟨?_, fun k l => ?_, locked.apart, locked.entered⟩
  · simpa only [works] using locked.writer
  · simpa only [works] using locked.alone k l

theorem shared_nil {fleet : Fleet} (trees : ∀ i c, fleet.checkout? i = some c -> c.tree = {})
    (jobs : fleet.jobs = []) : Shared fleet [] := by
  have nobody := Fleet.idle_of_done (f := fleet) (by simp [jobs])
  refine ⟨fun i c here => ?_, fun i c here => ?_, nofun⟩
  · rw [trees i c here]
    exact Fleet.locked_free (nobody i)
  · rw [trees i c here]
    exact ⟨rfl, rfl⟩

namespace Shared

variable {fleet : Fleet} {loans : List Loan}

theorem ask (shared : Shared fleet loans) (k g place : Nat) :
    Shared (fleet.borrow place)
      ((loans ++ [Loan.call k g place]).map
        (Loan.enter (fleet.borrow place))) := by
  have known : ∀ i c, (fleet.borrow place).checkout? i = some c ->
      (i = place ∧ ∃ old, fleet.checkout? i = some old ∧ c = { old with tree := old.tree.borrow }) ∨
        (i ≠ place ∧ fleet.checkout? i = some c) := by
    intro i c here
    rw [Fleet.borrow, Fleet.changeTree, Fleet.checkout_change] at here
    split at here
    next same =>
      obtain ⟨old, before, rfl⟩ := Option.map_eq_some_iff.mp here
      exact .inl ⟨same.symm, old, before, rfl⟩
    next other => exact .inr ⟨Ne.symm other, here⟩
  have more : ∀ i, (loans ++ [Loan.call k g place]).countP (Loan.has i) =
        loans.countP (Loan.has i) ∧
      (loans ++ [Loan.call k g place]).countP (Loan.asks i) =
        loans.countP (Loan.asks i) + if place = i then 1 else 0 := by
    intro i
    by_cases same : place = i <;> simp [List.countP_append, Loan.has, Loan.asks, Loan.call, same]
  refine letIn_shared (fun i c here => ?_) (fun i c here => ?_) fun i c here => ?_
  · rcases known i c here with ⟨rfl, old, before, rfl⟩ | ⟨_, before⟩
    · exact (shared.locked i old before).borrow
    · have jobs : (fleet.borrow place).jobs = fleet.jobs := rfl
      exact locked_of_jobs jobs (shared.locked i c before)
  · rw [(more i).1, (more i).2]
    rcases known i c here with ⟨rfl, old, before, rfl⟩ | ⟨other, before⟩
    · obtain ⟨readers, blocked⟩ := shared.counted i old before
      simp only [Tree.borrow, if_true]
      split <;> simp only <;> omega
    · obtain ⟨readers, blocked⟩ := shared.counted i c before
      rw [if_neg (Ne.symm other)]
      omega
  · rw [(more i).2]
    rcases known i c here with ⟨rfl, old, before, rfl⟩ | ⟨other, before⟩
    · obtain ⟨readers, blocked⟩ := shared.counted i old before
      simp only [Tree.borrow, if_true]
      split <;> simp_all
    · intro _
      rw [if_neg (Ne.symm other)]
      exact (shared.counted i c before).2

theorem handBack (shared : Shared fleet loans) {before after : List Loan} {loan : Loan}
    (parts : loans = before ++ loan :: after) (given : loan.stage = .given) :
    Shared (fleet.giveBack loan.checkout)
      (before ++ { loan with stage := .returned } :: after) := by
  subst parts
  have known : ∀ i c, (fleet.giveBack loan.checkout).checkout? i = some c ->
      ∃ old, fleet.checkout? i = some old ∧
        c = if i = loan.checkout then { old with tree := old.tree.giveBack } else old := by
    intro i c here
    rw [Fleet.giveBack, Fleet.changeTree, Fleet.checkout_change] at here
    split at here
    next same =>
      obtain ⟨old, before, rfl⟩ := Option.map_eq_some_iff.mp here
      exact ⟨old, before, by rw [if_pos same.symm]⟩
    next other => exact ⟨c, here, by rw [if_neg (Ne.symm other)]⟩
  refine ⟨fun i c here => ?_, fun i c here => ?_, fun other member asked => ?_⟩
  · obtain ⟨old, was, rfl⟩ := known i c here
    have locked := shared.locked i old was
    split
    next same =>
      subst same
      exact locked.giveBack
    next =>
      have jobs : (fleet.giveBack loan.checkout).jobs = fleet.jobs := rfl
      exact locked_of_jobs jobs locked
  · obtain ⟨old, was, rfl⟩ := known i c here
    obtain ⟨readers, blocked⟩ := shared.counted i old was
    simp only [List.countP_append, List.countP_cons, Loan.has, Loan.asks, given] at readers blocked ⊢
    by_cases same : i = loan.checkout
    next =>
      subst same
      simp [Tree.giveBack] at readers blocked ⊢
      omega
    next =>
      simp [same, Ne.symm same] at readers blocked ⊢
      exact ⟨readers, blocked⟩
  · have there : other ∈ before ++ loan :: after := by
      rcases List.mem_append.mp member with early | late
      · exact List.mem_append_left _ early
      · rcases List.mem_cons.mp late with rfl | late
        · cases asked
        · exact List.mem_append_right _ (List.mem_cons_of_mem _ late)
    have written := shared.entered other there asked
    unfold Fleet.isWritten at written ⊢
    rw [Fleet.giveBack, Fleet.changeTree, Fleet.checkout_change]
    split
    next =>
      rw [Option.map_map]
      exact written
    next => exact written

theorem act (shared : Shared fleet loans) (queueing : fleet.Queueing) (a : Fleet.Act)
    (other : ∀ i, a ≠ .borrow i) (apart : ∀ i, a ≠ .giveBack i) :
    Shared (fleet.act a) (loans.map (Loan.enter (fleet.act a))) := by
  have known : ∀ i d, (fleet.act a).checkout? i = some d ->
      ∃ c, fleet.checkout? i = some c ∧ Fleet.Touch i c fleet (fleet.act a) := by
    intro i d here
    obtain ⟨inside, _⟩ := List.getElem?_eq_some_iff.mp here
    rw [Fleet.act_length] at inside
    have before : fleet.checkout? i = some fleet.checkouts[i] := List.getElem?_eq_getElem inside
    exact ⟨_, before, Fleet.act_touch queueing before a (other i) (apart i)⟩
  refine letIn_shared (fun i d here => ?_) (fun i d here => ?_) fun i d here => ?_
  · obtain ⟨c, before, touch⟩ := known i d here
    exact touch.locked (shared.locked i c before) here
  · obtain ⟨c, before, touch⟩ := known i d here
    obtain ⟨readers, blocked⟩ := shared.counted i c before
    rw [← readers, ← blocked]
    cases touch with
    | stay after =>
      obtain rfl : c = d := Option.some.inj (after.symm.trans here)
      rfl
    | claim k free after =>
      obtain rfl := Option.some.inj (after.symm.trans here)
      rfl
    | finish k result worked after =>
      obtain rfl := Option.some.inj (after.symm.trans here)
      rfl
  · obtain ⟨c, before, touch⟩ := known i d here
    obtain ⟨readers, blocked⟩ := shared.counted i c before
    rw [← blocked]
    cases touch with
    | stay after =>
      obtain rfl : c = d := Option.some.inj (after.symm.trans here)
      exact fun _ => rfl
    | claim k free after =>
      obtain rfl := Option.some.inj (after.symm.trans here)
      exact fun _ => rfl
    | finish k result worked after =>
      obtain rfl := Option.some.inj (after.symm.trans here)
      nofun

theorem direct (shared : Shared fleet loans) (i : Nat) (asker : Sync.Asker) :
    Shared ({ fleet with permits := fleet.permits + 1 }.request i asker) loans := by
  refine ⟨fun j c here => ?_, fun j c here => shared.counted j c here, fun loan member asked =>
    shared.entered loan member asked⟩
  have locked := shared.locked j c here
  have works : ∀ k, ({ fleet with permits := fleet.permits + 1 }.request i asker).Works j k ↔
      fleet.Works j k := fun k => Fleet.works_request _ i asker
  refine ⟨?_, fun k l => ?_, locked.apart, locked.entered⟩
  · simpa only [works] using locked.writer
  · simpa only [works] using locked.alone k l

end Shared

def Fits : Loan.Stage -> Seat P -> Prop
  | .asked, s => s = .probing
  | .given, s => s.isCalled = true ∧ s ≠ .released
  | .returned, s => s = .released

structure Lent (scope : Nat -> Nat -> Nat) (runs : List (Run P)) (loans : List Loan) : Prop where
  placed : ∀ loan ∈ loans, loan.checkout = scope loan.run loan.place
  once : loans.Pairwise fun a b => ¬ (a.run = b.run ∧ a.place = b.place)
  owed : ∀ loan ∈ loans, ∃ r i, runs[loan.run]? = some r ∧ loan.place = r.offset + i ∧
    Fits loan.stage (seatAt r.seats i)
  lent : ∀ (k : Nat) (r : Run P) (i : Nat), runs[k]? = some r ->
    (seatAt r.seats i).isCalled = true -> ∃ loan ∈ loans, loan.run = k ∧ loan.place = r.offset + i

theorem lent_nil (scope : Nat -> Nat -> Nat) : Lent scope ([] : List (Run P)) [] :=
  ⟨nofun, .nil, nofun, fun k r i there => by simp at there⟩

namespace Lent

variable {scope : Nat -> Nat -> Nat} {runs after : List (Run P)} {loans : List Loan}

theorem fits (lent : Lent scope runs loans) {k i : Nat} {r : Run P} {loan : Loan}
    (there : runs[k]? = some r) (member : loan ∈ loans)
    (own : loan.run = k ∧ loan.place = r.offset + i) : Fits loan.stage (seatAt r.seats i) := by
  obtain ⟨found, j, here, place, fits⟩ := lent.owed loan member
  obtain rfl : r = found := by simpa [own.1, there] using here
  obtain rfl : j = i := by omega
  exact fits

-- no loan changes its probe
theorem map (lent : Lent scope runs loans) (f : Loan -> Loan)
    (same : ∀ loan, (f loan).run = loan.run ∧ (f loan).place = loan.place ∧
      (f loan).checkout = loan.checkout)
    (owed : ∀ loan ∈ loans, ∃ r i, after[loan.run]? = some r ∧ loan.place = r.offset + i ∧
      Fits (f loan).stage (seatAt r.seats i))
    (kept : ∀ (k : Nat) (r : Run P) (i : Nat), after[k]? = some r ->
      (seatAt r.seats i).isCalled = true -> ∃ loan ∈ loans, loan.run = k ∧ loan.place = r.offset + i) :
    Lent scope after (loans.map f) := by
  refine ⟨fun loan member => ?_, ?_, fun loan member => ?_, fun k r i there taken => ?_⟩
  · obtain ⟨old, before, rfl⟩ := List.mem_map.mp member
    obtain ⟨run, place, checkout⟩ := same old
    rw [run, place, checkout]
    exact lent.placed old before
  · refine List.pairwise_map.mpr (lent.once.imp fun apart => ?_)
    rwa [(same _).1, (same _).2.1, (same _).1, (same _).2.1]
  · obtain ⟨old, before, rfl⟩ := List.mem_map.mp member
    rw [(same old).1, (same old).2.1]
    exact owed old before
  · obtain ⟨loan, member, run, place⟩ := kept k r i there taken
    exact ⟨_, List.mem_map_of_mem member, by rw [(same loan).1, run], by rw [(same loan).2.1, place]⟩

theorem enter (lent : Lent scope runs loans) (f : Fleet) :
    Lent scope runs (loans.map (Loan.enter f)) := by
  refine lent.map _ (fun loan => ?_) (fun loan member => ?_) lent.lent
  · unfold Loan.enter
    split
    next => split <;> exact ⟨rfl, rfl, rfl⟩
    next => exact ⟨rfl, rfl, rfl⟩
  · obtain ⟨r, i, there, place, fits⟩ := lent.owed loan member
    refine ⟨r, i, there, place, ?_⟩
    unfold Loan.enter
    split
    next asked =>
      split
      next => exact fits
      next =>
        rw [asked] at fits
        have seat : seatAt r.seats i = .probing := fits
        exact ⟨by rw [seat]; rfl, by simp [seat]⟩
    next => exact fits

theorem extend (lent : Lent scope runs loans) (r : Run P)
    (fresh : ∀ i, seatAt r.seats i = .waiting) : Lent scope (runs ++ [r]) loans := by
  refine ⟨lent.placed, lent.once, fun loan member => ?_, fun k other i there taken => ?_⟩
  · obtain ⟨found, i, there, place, fits⟩ := lent.owed loan member
    obtain ⟨inside, _⟩ := List.getElem?_eq_some_iff.mp there
    exact ⟨found, i, by rw [List.getElem?_append_left inside, there], place, fits⟩
  · rcases Nat.lt_or_ge k runs.length with before | behind
    · rw [List.getElem?_append_left before] at there
      exact lent.lent k other i there taken
    · rw [List.getElem?_append_right behind] at there
      obtain rfl := List.mem_singleton.mp (List.mem_of_getElem? there)
      simp [fresh i, Seat.isCalled] at taken

variable {k : Nat} {r next : Run P}

theorem owed_set (lent : Lent scope runs loans) (there : runs[k]? = some r)
    (offset : next.offset = r.offset) (f : Loan -> Loan)
    (others : ∀ loan, loan.run ≠ k -> f loan = loan)
    (fits : ∀ loan ∈ loans, ∀ i, loan.run = k -> loan.place = r.offset + i ->
      Fits loan.stage (seatAt r.seats i) -> Fits (f loan).stage (seatAt next.seats i)) :
    ∀ loan ∈ loans, ∃ found i, (runs.set k next)[loan.run]? = some found ∧
      loan.place = found.offset + i ∧ Fits (f loan).stage (seatAt found.seats i) := by
  intro loan member
  obtain ⟨inside, _⟩ := List.getElem?_eq_some_iff.mp there
  obtain ⟨found, i, here, place, stands⟩ := lent.owed loan member
  by_cases own : k = loan.run
  next =>
    obtain rfl : r = found := by simpa [own ▸ there] using here
    refine ⟨next, i, ?_, by rw [offset, place], fits loan member i own.symm place stands⟩
    rw [← own, List.getElem?_set_self inside]
  next =>
    rw [others loan (Ne.symm own)]
    exact ⟨found, i, by rw [List.getElem?_set_ne own, here], place, stands⟩

theorem lent_set (lent : Lent scope runs loans) (there : runs[k]? = some r)
    (offset : next.offset = r.offset) {all : List Loan} (old : ∀ loan ∈ loans, loan ∈ all)
    (taken : ∀ i, (seatAt next.seats i).isCalled = true -> (seatAt r.seats i).isCalled = false ->
      ∃ loan ∈ all, loan.run = k ∧ loan.place = r.offset + i) :
    ∀ (l : Nat) (found : Run P) (i : Nat), (runs.set k next)[l]? = some found ->
      (seatAt found.seats i).isCalled = true ->
      ∃ loan ∈ all, loan.run = l ∧ loan.place = found.offset + i := by
  intro l found i here busy
  obtain ⟨inside, _⟩ := List.getElem?_eq_some_iff.mp there
  have known : ∀ (l : Nat) (found : Run P), runs[l]? = some found ->
      (seatAt found.seats i).isCalled = true ->
      ∃ loan ∈ all, loan.run = l ∧ loan.place = found.offset + i := by
    intro l found here busy
    obtain ⟨loan, member, own⟩ := lent.lent l found i here busy
    exact ⟨loan, old loan member, own⟩
  by_cases own : k = l
  next =>
    subst own
    obtain rfl : next = found := by simpa [List.getElem?_set_self inside] using here
    rw [offset]
    by_cases before : (seatAt r.seats i).isCalled = true
    next => exact known k r there before
    next => exact taken i busy (by simpa using before)
  next =>
    rw [List.getElem?_set_ne own] at here
    exact known l found here busy

theorem up (lent : Lent scope runs loans) (there : runs[k]? = some r)
    (offset : next.offset = r.offset) {i : Nat} (inside : i < r.seats.length)
    (seat : seatAt r.seats i = .spawned) (seats : next.seats = r.seats.set i .probing) :
    Lent scope (runs.set k next)
      (loans ++ [.call k (r.offset + i) (scope k (r.offset + i))]) := by
  have fresh : ∀ loan ∈ loans, ¬ (loan.run = k ∧ loan.place = r.offset + i) := by
    rintro loan member ⟨run, place⟩
    obtain ⟨found, j, here, stands, fits⟩ := lent.owed loan member
    obtain rfl : r = found := by simpa [run, there] using here
    obtain rfl : j = i := by omega
    rw [seat] at fits
    cases stage : loan.stage <;> simp [Fits, Seat.isCalled, stage] at fits
  have away : ∀ j, j ≠ i -> seatAt next.seats j = seatAt r.seats j := by
    intro j other
    rw [seats, seatAt_set_ne (Ne.symm other)]
  have here : seatAt next.seats i = .probing := by rw [seats, seatAt_set_self inside]
  have owed := lent.owed_set there offset id (fun _ _ => rfl) (fun loan member j run place fits => by
    have other : j ≠ i := fun same => fresh loan member ⟨run, same ▸ place⟩
    rw [away j other]
    exact fits)
  refine ⟨fun loan member => ?_, ?_, fun loan member => ?_, ?_⟩
  · rcases List.mem_append.mp member with old | new
    · exact lent.placed loan old
    · rw [List.mem_singleton.mp new]
      rfl
  · refine List.pairwise_append.mpr ⟨lent.once, List.pairwise_singleton .., ?_⟩
    intro loan member other last
    rw [List.mem_singleton.mp last]
    exact fresh loan member
  · rcases List.mem_append.mp member with old | new
    · exact owed loan old
    · obtain rfl := List.mem_singleton.mp new
      obtain ⟨known, _⟩ := List.getElem?_eq_some_iff.mp there
      exact ⟨next, i, List.getElem?_set_self known, by rw [offset]; rfl, here⟩
  · refine lent.lent_set there offset (fun loan member => List.mem_append_left _ member) ?_
    intro j busy before
    have same : j = i := by
      by_contra other
      simp [away j other, before] at busy
    exact ⟨_, List.mem_append_right _ List.mem_cons_self, rfl, by rw [same]; rfl⟩

theorem back (lent : Lent scope runs loans) (there : runs[k]? = some r)
    (offset : next.offset = r.offset) {i : Nat} (seat : seatAt r.seats i = .freed)
    (seats : next.seats = r.seats.set i .released) :
    Lent scope (runs.set k next) (loans.map (Loan.handBack k (r.offset + i))) := by
  have inside : i < r.seats.length := lt_length_of_seatAt (by simp [seat])
  refine lent.map _ (fun loan => ?_) (lent.owed_set there offset _ (fun loan other => ?_) ?_)
    (lent.lent_set there offset (fun _ member => member) ?_)
  · unfold Loan.handBack
    split <;> exact ⟨rfl, rfl, rfl⟩
  · rw [Loan.handBack, if_neg fun own => other own.1]
  · intro loan member j run place fits
    by_cases same : j = i
    next =>
      subst same
      rw [Loan.handBack, if_pos ⟨run, place⟩, seats, seatAt_set_self inside]
      rfl
    next =>
      rw [Loan.handBack, if_neg fun own => same (by omega), seats, seatAt_set_ne (Ne.symm same)]
      exact fits
  · intro j busy before
    rw [seats] at busy
    rcases seatAt_set_or r.seats i .released j with same | ⟨rfl, _⟩
    · simp [same, before] at busy
    · simp [seat, Seat.isCalled] at before

-- neither a launch nor a release
theorem along (lent : Lent scope runs loans) (there : runs[k]? = some r)
    (offset : next.offset = r.offset) {sources : List (Source P)} {m : Move}
    (goes : ∀ i, Seat.Goes sources i m (seatAt r.seats i) (seatAt next.seats i))
    (ready : ∀ i, m = .endProbe i ->
      ∀ loan ∈ loans, loan.run = k -> loan.place = r.offset + i -> loan.stage ≠ .asked)
    (taken : ∀ i, (seatAt next.seats i).isCalled = true -> (seatAt r.seats i).isCalled = true)
    (given : ∀ i, seatAt next.seats i = .released -> seatAt r.seats i = .released) :
    Lent scope (runs.set k next) loans := by
  refine ⟨lent.placed, lent.once, lent.owed_set there offset id (fun _ _ => rfl) ?_,
    lent.lent_set there offset (fun _ member => member) fun i now before => by
      simp [taken i now] at before⟩
  intro loan member i run place fits
  rw [id]
  cases stage : loan.stage with
  | asked =>
    rw [stage] at fits
    exact (goes i).probes (fun own => ready i own loan member run place stage) fits
  | given =>
    rw [stage] at fits
    exact ⟨(goes i).settled.1 fits.1, mt (given i) fits.2⟩
  | returned =>
    rw [stage] at fits
    exact (goes i).settled.2 fits

end Lent

structure Orderly (sources : Nat -> List (Source P)) (scope : Nat -> Nat -> Nat) (t : Traffic P) :
    Prop where
  searches : ∃ maxProbes nextLimit turns,
    t.searches = ((Runs.idle maxProbes nextLimit).play sources turns).1
  queueing : t.fleet.Queueing
  served : t.fleet.Served
  shared : Shared t.fleet t.loans
  lent : Lent scope t.searches.runs t.loans

theorem note_searches (scope : Nat -> Nat -> Nat) (t : Traffic P) (n : Notice P) :
    (t.note scope n).searches = t.searches := by
  unfold note
  split <;> rfl

theorem foldl_note_searches (scope : Nat -> Nat -> Nat) (notices : List (Notice P))
    (t : Traffic P) : (notices.foldl (note scope) t).searches = t.searches := by
  induction notices generalizing t with
  | nil => rfl
  | cons n rest ih => rw [List.foldl_cons, ih, note_searches]

theorem foldl_note_jobs (scope : Nat -> Nat -> Nat) (notices : List (Notice P)) (t : Traffic P) :
    (notices.foldl (note scope) t).fleet.jobs = t.fleet.jobs := by
  induction notices generalizing t with
  | nil => rfl
  | cons n rest ih =>
    rw [List.foldl_cons, ih, note]
    split <;> rfl

theorem works_turn (sources : Nat -> List (Source P)) (scope : Nat -> Nat -> Nat) (t : Traffic P)
    (u : Turn) (i j : Nat) : (t.turn sources scope u).fleet.Works i j ↔ t.fleet.Works i j := by
  rw [Fleet.Works, turn, foldl_note_jobs]
  rfl

theorem foldl_note_fetches (scope : Nat -> Nat -> Nat) (notices : List (Notice P)) (t : Traffic P)
    (fetches : ∀ n ∈ notices, ∃ g payload, n.event = .fetch g payload) :
    notices.foldl (note scope) t = t := by
  induction notices generalizing t with
  | nil => rfl
  | cons n rest ih =>
    obtain ⟨g, payload, event⟩ := fetches n List.mem_cons_self
    have same : t.note scope n = t := by simp [note, event]
    rw [List.foldl_cons, same, ih t fun other member => fetches other (List.mem_cons_of_mem _ member)]

theorem map_handBack {before after : List Loan} {loan : Loan}
    (once : (before ++ loan :: after).Pairwise fun a b => ¬ (a.run = b.run ∧ a.place = b.place)) :
    (before ++ loan :: after).map (Loan.handBack loan.run loan.place) =
      before ++ { loan with stage := .returned } :: after := by
  obtain ⟨_, tail, apart⟩ := List.pairwise_append.mp once
  obtain ⟨later, _⟩ := List.pairwise_cons.mp tail
  have early : before.map (Loan.handBack loan.run loan.place) = before := by
    refine (List.map_congr_left fun other member => ?_).trans (List.map_id before)
    exact if_neg (apart other member loan List.mem_cons_self)
  have late : after.map (Loan.handBack loan.run loan.place) = after := by
    refine (List.map_congr_left fun other member => ?_).trans (List.map_id after)
    exact if_neg fun same => later other member ⟨same.1.symm, same.2.symm⟩
  rw [List.map_append, List.map_cons, early, late, Loan.handBack, if_pos ⟨rfl, rfl⟩]

theorem given_of_freed {scope : Nat -> Nat -> Nat} {runs : List (Run P)} {loans : List Loan}
    (lent : Lent scope runs loans) {k i : Nat} {r : Run P} (there : runs[k]? = some r)
    (seat : seatAt r.seats i = .freed) :
    ∃ loan ∈ loans, loan.run = k ∧ loan.place = r.offset + i ∧ loan.stage = .given := by
  obtain ⟨loan, member, run, place⟩ := lent.lent k r i there (by rw [seat]; rfl)
  refine ⟨loan, member, run, place, ?_⟩
  have fits := lent.fits there member ⟨run, place⟩
  rw [seat] at fits
  cases stage : loan.stage <;> simp [Fits, stage] at fits ⊢

theorem move_parts {sources : List (Source P)} {scope : Nat -> Nat -> Nat} {t : Traffic P}
    {runs : List (Run P)} {k width : Nat} {r next : Run P} {m : Move} {events : List (Event P)}
    (queueing : t.fleet.Queueing) (shared : Shared t.fleet t.loans) (lent : Lent scope runs t.loans)
    (there : runs[k]? = some r) (step : Run.Step sources r m events next)
    (held : r.Controlled width)
    (ready : ∀ i, m = .endProbe i -> ∀ loan ∈ t.loans, loan.run = k -> loan.place = r.offset + i ->
      loan.stage ≠ .asked) :
    let last := (events.map fun e => { run := k, event := e.shift next.offset : Notice P }).foldl
      (note scope) t
    last.fleet.Queueing ∧ (t.fleet.Served -> last.fleet.Served) ∧ Shared last.fleet last.loans ∧
      Lent scope (runs.set k next) last.loans := by
  have offset := step.given.2.2.1
  have goes := step.goes held
  have lends := step.lends held
  cases lends with
  | up i inside seat seats =>
    have lent := lent.up there offset inside seat seats
    have shared := shared.ask k (r.offset + i) (scope k (r.offset + i))
    simp only [List.map_cons, List.map_nil, List.foldl_cons, List.foldl_nil, note, ask, letIn,
      Event.shift, offset]
    exact ⟨⟨queueing.once, queueing.queued⟩, fun served => served.change _ _, shared,
      lent.enter _⟩
  | back i seat seats =>
    obtain ⟨loan, member, run, place, given⟩ := given_of_freed lent there seat
    -- the loan of this probe is the only one that changes
    obtain ⟨before, after, parts⟩ := List.append_of_mem member
    have placed : loan.checkout = scope k (r.offset + i) := by
      rw [lent.placed loan member, run, place]
    have shared := shared.handBack parts given
    have same := map_handBack (parts ▸ lent.once)
    have lent := lent.back there offset seat seats
    rw [run, place, placed] at shared same
    rw [← parts] at same
    simp only [List.map_cons, List.map_nil, List.foldl_cons, List.foldl_nil, note,
      Traffic.handBack, Event.shift, offset]
    refine ⟨⟨queueing.once, queueing.queued⟩, fun served => served.change _ _, ?_, lent⟩
    rw [same]
    exact shared
  | none _ fetches taken given =>
    rw [foldl_note_fetches]
    · refine ⟨queueing, id, shared, lent.along there offset goes ?_ taken given⟩
      rintro i rfl loan member run place
      exact ready i rfl loan member run place
    · intro n member
      obtain ⟨e, here, rfl⟩ := List.mem_map.mp member
      obtain ⟨i, payload, rfl⟩ := fetches e here
      exact ⟨_, _, rfl⟩

namespace Orderly

variable {sources : Nat -> List (Source P)} {scope : Nat -> Nat -> Nat} {t : Traffic P}

theorem lawful (orderly : t.Orderly sources scope) {k : Nat} {r : Run P}
    (there : t.searches.runs[k]? = some r) :
    ∃ width, r.Lawful ((sources k).drop r.offset) width ∧ (0 < r.names.length -> 0 < width) := by
  obtain ⟨maxProbes, nextLimit, turns, same⟩ := orderly.searches
  rw [same] at there
  have reached := (Runs.reached sources maxProbes nextLimit turns k r there).2
  refine ⟨_, reached.lawful, fun more => ?_⟩
  rw [reached.lawful.length] at more
  omega

theorem searches_turn (orderly : t.Orderly sources scope) (u : Turn) :
    ∃ maxProbes nextLimit turns, (t.turn sources scope u).searches =
      ((Runs.idle maxProbes nextLimit).play sources turns).1 := by
  obtain ⟨maxProbes, nextLimit, turns, same⟩ := orderly.searches
  refine ⟨maxProbes, nextLimit, turns ++ [u], ?_⟩
  rw [Traffic.turn, foldl_note_searches, Runs.play_append, ← same]
  rfl

theorem turn_parts (orderly : t.Orderly sources scope) {u : Turn} (ready : t.Ready u) :
    (t.turn sources scope u).fleet.Queueing ∧ (t.turn sources scope u).fleet.Served ∧
      Shared (t.turn sources scope u).fleet (t.turn sources scope u).loans ∧
      Lent scope (t.turn sources scope u).searches.runs (t.turn sources scope u).loans := by
  have old := And.intro orderly.queueing (And.intro orderly.served orderly.shared)
  cases u with
  | begin request =>
    refine ⟨old.1, old.2.1, old.2.2, orderly.lent.extend _ fun i => ?_⟩
    exact Run.start_seats ..
  | shutdown => exact ⟨old.1, old.2.1, old.2.2, orderly.lent⟩
  | move k m =>
    cases there : t.searches.runs[k]? with
    | none =>
      rw [turn, Runs.turn, Runs.go_none sources _ k m there]
      exact ⟨old.1, old.2.1, old.2.2, orderly.lent⟩
    | some r =>
      obtain ⟨width, lawful, _⟩ := orderly.lawful there
      have step := Run.move_step ((sources k).drop r.offset) r m
      let begun : Traffic P := { t with searches := (t.searches.go sources k m).1 }
      obtain ⟨queueing, served, shared, lent⟩ := move_parts (t := begun) orderly.queueing
        orderly.shared orderly.lent there step lawful.controlled fun i same loan member run place =>
          ready k i r (by rw [same]) there loan member run place
      rw [turn, Runs.turn, foldl_note_searches, Runs.go_some sources _ k m r there]
      simp only [begun, Runs.go_some sources _ k m r there] at queueing served shared lent
      exact ⟨queueing, served orderly.served, shared, lent⟩

theorem step {after : Traffic P} (orderly : t.Orderly sources scope)
    (step : Step sources scope t after) : after.Orderly sources scope := by
  cases step with
  | turn u ready =>
    obtain ⟨queueing, served, shared, lent⟩ := orderly.turn_parts ready
    exact ⟨orderly.searches_turn u, queueing, served, shared, lent⟩
  | fleet a other apart inside =>
    have queueing : (t.fleet.act a).Queueing := orderly.queueing.act a
    exact ⟨orderly.searches, queueing, orderly.served.act orderly.queueing a inside,
      orderly.shared.act orderly.queueing a other apart, orderly.lent.enter _⟩
  | direct i asker inside =>
    have more : { t.fleet with permits := t.fleet.permits + 1 }.Queueing :=
      ⟨orderly.queueing.once, orderly.queueing.queued⟩
    exact ⟨orderly.searches, more.request i asker, orderly.served.append rfl inside _
      orderly.served.spent, orderly.shared.direct i asker, orderly.lent⟩

theorem fresh {maxProbes nextLimit : Nat} (fresh : t.Fresh maxProbes nextLimit) :
    t.Orderly sources scope := by
  refine ⟨⟨maxProbes, nextLimit, [], fresh.searches⟩, ⟨by simp [fresh.queue], by simp [fresh.queue]⟩,
    ⟨by simp [fresh.jobs], by simp [fresh.queue], .inl fresh.permits, by simp [fresh.jobs]⟩, ?_, ?_⟩
  · rw [fresh.loans]
    exact shared_nil fresh.trees fresh.jobs
  · rw [fresh.loans, fresh.searches]
    exact lent_nil scope

theorem launched (orderly : t.Orderly sources scope) {u : Turn} (ready : t.Ready u) {n : Notice P}
    (member : n ∈ (t.searches.turn sources u).2) {g : Nat} (event : n.event = .probe g) :
    ∃ loan ∈ (t.turn sources scope u).loans, loan.run = n.run ∧ loan.place = g ∧
      loan.stage ≠ .returned := by
  have after := orderly.step (.turn u ready)
  cases u with
  | begin request => cases member
  | shutdown => cases member
  | move k m =>
    cases there : t.searches.runs[k]? with
    | none =>
      rw [Runs.turn, Runs.go_none sources _ k m there] at member
      cases member
    | some r =>
      obtain ⟨width, lawful, _⟩ := orderly.lawful there
      have step := Run.move_step ((sources k).drop r.offset) r m
      have offset := step.given.2.2.1
      have stands : (t.turn sources scope (.move k m)).searches.runs[k]? =
          some (r.move ((sources k).drop r.offset) m).1 := by
        obtain ⟨inside, _⟩ := List.getElem?_eq_some_iff.mp there
        rw [turn, foldl_note_searches, Runs.turn, Runs.go_some sources _ k m r there, Runs.replace]
        exact List.getElem?_set_self inside
      rw [Runs.turn, Runs.go_some sources _ k m r there, Runs.replace] at member
      obtain ⟨e, emitted, rfl⟩ := List.mem_map.mp member
      have lends := step.lends lawful.controlled
      generalize (r.move ((sources k).drop r.offset) m).2 = events at lends emitted
      cases lends with
      | up i inside seat seats =>
        obtain rfl := List.mem_singleton.mp emitted
        obtain rfl : r.offset + i = g := by simpa [Event.shift, offset] using event
        have probing : seatAt (r.move ((sources k).drop r.offset) m).1.seats i = .probing := by
          rw [seats, seatAt_set_self inside]
        obtain ⟨loan, member, run, place⟩ := after.lent.lent k _ i stands (by rw [probing]; rfl)
        refine ⟨loan, member, run, by rw [place, offset], fun returned => ?_⟩
        have fits := after.lent.fits stands member ⟨run, place⟩
        rw [returned, probing] at fits
        cases fits
      | back i seat seats =>
        obtain rfl := List.mem_singleton.mp emitted
        cases event
      | none _ fetches =>
        obtain ⟨i, payload, rfl⟩ := fetches e emitted
        cases event

theorem asked_iff (orderly : t.Orderly sources scope) {loan : Loan} (member : loan ∈ t.loans)
    (kept : loan.stage ≠ .returned) :
    loan.stage = .asked ↔ ∃ j, t.fleet.Works loan.checkout j := by
  refine ⟨fun asked => ?_, fun ⟨j, works⟩ => ?_⟩
  · have written := orderly.shared.entered loan member asked
    cases here : t.fleet.checkout? loan.checkout with
    | none => simp [Fleet.isWritten, here] at written
    | some c =>
      rw [isWritten_of here] at written
      exact (orderly.shared.locked _ c here).writer.mp written
  · obtain ⟨job, there, own, _⟩ := id works
    have known := own ▸ orderly.served.known j job there
    have here : t.fleet.checkout? loan.checkout = some t.fleet.checkouts[loan.checkout] :=
      List.getElem?_eq_getElem known
    have locked := orderly.shared.locked _ _ here
    have alone := locked.apart (locked.writer.mpr ⟨j, works⟩)
    rw [(orderly.shared.counted _ _ here).1, List.countP_eq_zero] at alone
    have out := alone loan member
    cases stage : loan.stage <;> simp_all [Loan.has]

theorem steps {after : Traffic P} (orderly : t.Orderly sources scope)
    (steps : Relation.ReflTransGen (Step sources scope) t after) :
    after.Orderly sources scope := by
  induction steps with
  | refl => exact orderly
  | tail _ step ih => exact ih.step step

end Orderly

end Traffic

end FleetSearch
