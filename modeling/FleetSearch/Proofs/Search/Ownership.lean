import FleetSearch.Proofs.Search.Step
import Mathlib.Data.List.Nodup

set_option autoImplicit false

/-!
Who owns what. A mailbox holds the seats that wait in it and no others, the launcher has taken the
seats from the front, a permit is free, with the launcher or with a worker that has not published,
and each phase has only the seats that somebody will still look after.
-/

namespace FleetSearch.Search

variable {P : Type}

namespace Seat

def isReported : Seat P -> Bool
  | .reported _ => true
  | _ => false

def isFetched : Seat P -> Bool
  | .fetched _ => true
  | _ => false

end Seat

def seatAt (seats : List (Seat P)) (i : Nat) : Seat P :=
  seats[i]?.getD .waiting

theorem lt_length_of_seatAt {seats : List (Seat P)} {i : Nat} (taken : seatAt seats i ≠ .waiting) :
    i < seats.length := by
  by_contra outside
  exact taken (by simp [seatAt, List.getElem?_eq_none (Nat.le_of_not_lt outside)])

theorem seatAt_set {seats : List (Seat P)} {i : Nat} (inside : i < seats.length) (s : Seat P)
    (j : Nat) : seatAt (seats.set i s) j = if i = j then s else seatAt seats j := by
  by_cases same : i = j
  next =>
    subst same
    simp [seatAt, inside]
  next => simp [seatAt, same]

theorem seatAt_set_self {seats : List (Seat P)} {i : Nat} (inside : i < seats.length)
    (s : Seat P) : seatAt (seats.set i s) i = s := by
  simp [seatAt_set inside]

theorem seatAt_set_ne {seats : List (Seat P)} {i j : Nat} (other : i ≠ j) (s : Seat P) :
    seatAt (seats.set i s) j = seatAt seats j := by
  simp [seatAt, other]

theorem seatAt_set_or (seats : List (Seat P)) (i : Nat) (s : Seat P) (j : Nat) :
    seatAt (seats.set i s) j = seatAt seats j ∨ i = j ∧ seatAt (seats.set i s) j = s := by
  by_cases same : i = j
  next =>
    subst same
    by_cases inside : i < seats.length
    next => exact .inr ⟨rfl, seatAt_set_self inside s⟩
    next => exact .inl (by rw [List.set_eq_of_length_le (Nat.le_of_not_lt inside)])
  next => exact .inl (seatAt_set_ne same s)

theorem seatAt_map (f : Seat P -> Seat P) (fixed : f .waiting = .waiting) (seats : List (Seat P))
    (i : Nat) : seatAt (seats.map f) i = f (seatAt seats i) := by
  cases found : seats[i]? <;> simp [seatAt, found, fixed]

theorem seatAt_dispatchSeats (cutoff : Nat) (seats : List (Seat P)) (i : Nat) :
    seatAt (Run.dispatchSeats cutoff seats) i =
      if i < cutoff then (seatAt seats i).fetch else (seatAt seats i).freeHeld := by
  have length : ((seats.take cutoff).map Seat.fetch).length = min cutoff seats.length := by simp
  by_cases below : i < cutoff
  next =>
    by_cases inside : i < seats.length
    next =>
      rw [seatAt, Run.dispatchSeats, List.getElem?_append_left (by omega)]
      simp [seatAt, below, inside]
    next =>
      have outside : (Run.dispatchSeats cutoff seats)[i]? = none := by
        apply List.getElem?_eq_none
        simp [Run.dispatchSeats]
        omega
      simp [seatAt, outside, List.getElem?_eq_none (Nat.le_of_not_lt inside), below, Seat.fetch]
  next =>
    rw [seatAt, Run.dispatchSeats, List.getElem?_append_right (by omega), length, if_neg below]
    by_cases inside : i < seats.length
    next =>
      have place : cutoff + (i - min cutoff seats.length) = i := by omega
      simp [seatAt, List.getElem?_drop, place, inside]
    next =>
      have outside : seats.length ≤ cutoff + (i - min cutoff seats.length) := by omega
      simp [seatAt, List.getElem?_drop, List.getElem?_eq_none outside,
        List.getElem?_eq_none (Nat.le_of_not_lt inside), Seat.freeHeld]

theorem length_dispatchSeats (cutoff : Nat) (seats : List (Seat P)) :
    (Run.dispatchSeats cutoff seats).length = seats.length := by
  simp [Run.dispatchSeats]
  omega

theorem any_eq_false_iff (p : Seat P -> Bool) (vacant : p .waiting = false)
    (seats : List (Seat P)) : seats.any p = false ↔ ∀ i, p (seatAt seats i) = false := by
  constructor
  next =>
    intro none i
    cases found : seats[i]? with
    | none => simp [seatAt, found, vacant]
    | some s =>
      have absent := List.any_eq_false.mp none s (List.mem_of_getElem? found)
      simpa [seatAt, found] using absent
  next =>
    intro none
    apply List.any_eq_false.mpr
    intro s member
    obtain ⟨i, inside, rfl⟩ := List.mem_iff_getElem.mp member
    simpa [seatAt, inside] using none i

theorem countP_set_balance (p : Seat P -> Bool) {seats : List (Seat P)} {i : Nat}
    (inside : i < seats.length) (s : Seat P) :
    (seats.set i s).countP p + (p seats[i]).toNat = seats.countP p + (p s).toNat := by
  have counted : p seats[i] = true -> 0 < seats.countP p := fun has =>
    List.countP_pos_iff.mpr ⟨seats[i], List.getElem_mem inside, has⟩
  rw [List.countP_set inside]
  cases before : p seats[i] with
  | false => cases p s <;> simp
  | true =>
    have some := counted before
    cases p s <;> simp <;> omega

structure Queued (p : Seat P -> Bool) (seats : List (Seat P)) (queue : List Nat) : Prop where
  once : queue.Nodup
  members : ∀ i, i ∈ queue ↔ p (seatAt seats i) = true

namespace Queued

variable {p : Seat P -> Bool} {seats : List (Seat P)} {queue rest : List Nat} {i : Nat} {s : Seat P}

theorem head (queued : Queued p seats (i :: rest)) : p (seatAt seats i) = true :=
  (queued.members i).mp List.mem_cons_self

theorem set_quiet (queued : Queued p seats queue) (before : p (seatAt seats i) = false)
    (after : p s = false) : Queued p (seats.set i s) queue := by
  refine ⟨queued.once, fun j => ?_⟩
  rw [queued.members]
  by_cases same : i = j
  next =>
    subst same
    by_cases inside : i < seats.length
    next => simp [seatAt_set_self inside, before, after]
    next => rw [List.set_eq_of_length_le (Nat.le_of_not_lt inside)]
  next => rw [seatAt_set_ne same]

theorem pop (queued : Queued p seats (i :: rest)) (vacant : p .waiting = false)
    (after : p s = false) : Queued p (seats.set i s) rest := by
  have inside : i < seats.length :=
    lt_length_of_seatAt fun waiting => by simpa [waiting, vacant] using queued.head
  obtain ⟨absent, once⟩ := List.nodup_cons.mp queued.once
  refine ⟨once, fun j => ?_⟩
  by_cases same : i = j
  next =>
    subst same
    simp [seatAt_set_self inside, after, absent]
  next =>
    rw [seatAt_set_ne same, ← queued.members, List.mem_cons]
    simp [Ne.symm same]

theorem push (queued : Queued p seats queue) (before : p (seatAt seats i) = false)
    (inside : i < seats.length) (after : p s = true) :
    Queued p (seats.set i s) (queue ++ [i]) := by
  have absent : i ∉ queue := fun member => by simp [(queued.members i).mp member] at before
  have apart : ∀ j ∈ queue, ∀ k ∈ [i], j ≠ k := by
    intro j member k last
    rintro rfl
    exact absent (by simpa [List.mem_singleton.mp last] using member)
  refine ⟨List.nodup_append.mpr ⟨queued.once, by simp, apart⟩, fun j => ?_⟩
  by_cases same : i = j
  next =>
    subst same
    simp [seatAt_set_self inside, after]
  next =>
    rw [seatAt_set_ne same, ← queued.members]
    simp [Ne.symm same]

theorem map (queued : Queued p seats queue) (f : Seat P -> Seat P) (fixed : f .waiting = .waiting)
    (same : ∀ s, p (f s) = p s) : Queued p (seats.map f) queue := by
  refine ⟨queued.once, fun j => ?_⟩
  rw [seatAt_map f fixed, same, queued.members]

theorem clear (f : Seat P -> Seat P) (fixed : f .waiting = .waiting) (none : ∀ s, p (f s) = false)
    (seats : List (Seat P)) : Queued p (seats.map f) [] := by
  refine ⟨List.nodup_nil, fun j => ?_⟩
  simp [seatAt_map f fixed, none]

theorem dispatch (queued : Queued p seats queue) (cutoff : Nat) (fetched : ∀ s, p s.fetch = p s)
    (freed : ∀ s, p s.freeHeld = p s) : Queued p (Run.dispatchSeats cutoff seats) queue := by
  refine ⟨queued.once, fun j => ?_⟩
  rw [seatAt_dispatchSeats, queued.members]
  split <;> simp [fetched, freed]

end Queued

structure Mailed (seats : List (Seat P)) (reports results : List Nat) : Prop where
  reports : Queued Seat.isReported seats reports
  results : Queued Seat.isFetched seats results

namespace Mailed

variable {seats : List (Seat P)} {reports results rest : List Nat} {i : Nat} {s t : Seat P}

theorem set_quiet (mailed : Mailed seats reports results) (seat : seatAt seats i = t)
    (before : t.isReported = false ∧ t.isFetched = false)
    (after : s.isReported = false ∧ s.isFetched = false) :
    Mailed (seats.set i s) reports results := by
  subst seat
  exact ⟨mailed.reports.set_quiet before.1 after.1, mailed.results.set_quiet before.2 after.2⟩

theorem push_report (mailed : Mailed seats reports results) (seat : seatAt seats i = t)
    (occupied : t ≠ .waiting) (before : t.isReported = false ∧ t.isFetched = false)
    (after : s.isReported = true ∧ s.isFetched = false) :
    Mailed (seats.set i s) (reports ++ [i]) results := by
  subst seat
  exact ⟨mailed.reports.push before.1 (lt_length_of_seatAt occupied) after.1,
    mailed.results.set_quiet before.2 after.2⟩

theorem push_result (mailed : Mailed seats reports results) (seat : seatAt seats i = t)
    (occupied : t ≠ .waiting) (before : t.isReported = false ∧ t.isFetched = false)
    (after : s.isReported = false ∧ s.isFetched = true) :
    Mailed (seats.set i s) reports (results ++ [i]) := by
  subst seat
  exact ⟨mailed.reports.set_quiet before.1 after.1,
    mailed.results.push before.2 (lt_length_of_seatAt occupied) after.2⟩

theorem reported (mailed : Mailed seats (i :: rest) results) :
    ∃ report, seatAt seats i = .reported report := by
  have head := mailed.reports.head
  cases seat : seatAt seats i <;> simp_all [Seat.isReported]

theorem fetched (mailed : Mailed seats reports (i :: rest)) :
    ∃ result, seatAt seats i = .fetched result := by
  have head := mailed.results.head
  cases seat : seatAt seats i <;> simp_all [Seat.isFetched]

theorem pop_report (mailed : Mailed seats (i :: rest) results)
    (after : s.isReported = false ∧ s.isFetched = false) : Mailed (seats.set i s) rest results := by
  obtain ⟨report, seat⟩ := mailed.reported
  exact ⟨mailed.reports.pop rfl after.1, mailed.results.set_quiet (by rw [seat]; rfl) after.2⟩

theorem pop_result (mailed : Mailed seats reports (i :: rest))
    (after : s.isReported = false ∧ s.isFetched = false) : Mailed (seats.set i s) reports rest := by
  obtain ⟨result, seat⟩ := mailed.fetched
  exact ⟨mailed.reports.set_quiet (by rw [seat]; rfl) after.1, mailed.results.pop rfl after.2⟩

end Mailed

def Seat.isEnded : Seat P -> Bool
  | .waiting => false
  | .spawned => false
  | .probing => false
  | _ => true

structure Launched (width size : Nat) (seats : List (Seat P)) (launched permits : Nat)
    (holding launching closed : Bool) : Prop where
  length : seats.length = size
  most : launched ≤ size
  waiting : ∀ i, seatAt seats i = .waiting ↔ launched ≤ i
  budget : permits + holding.toNat + seats.countP Seat.hasPermit = width
  room : holding = true -> launched < size
  leaves : launching = false -> holding = false ∧ (closed = true ∨ launched = size)

namespace Launched

variable {width size launched permits i : Nat} {seats : List (Seat P)}
  {holding launching closed : Bool} {s t : Seat P}

theorem set_taken (held : Launched width size seats launched permits holding launching closed)
    (seat : seatAt seats i = t) (before : t ≠ .waiting) (after : s ≠ .waiting) (free : Nat)
    (balance : s.hasPermit.toNat + free = t.hasPermit.toNat) :
    Launched width size (seats.set i s) launched (permits + free) holding launching closed := by
  have inside : i < seats.length := lt_length_of_seatAt (seat ▸ before)
  have old : seats[i] = t := by simpa [seatAt, inside] using seat
  refine ⟨by simpa using held.length, held.most, fun j => ?_, ?_, held.room, held.leaves⟩
  · rw [seatAt_set inside, ← held.waiting j]
    by_cases same : i = j
    next =>
      subst same
      simp [seat, before, after]
    next => simp [same]
  · have budget := held.budget
    have counted := countP_set_balance Seat.hasPermit inside s
    rw [old] at counted
    omega

theorem set_ended (held : Launched width size seats launched permits holding launching closed)
    (seat : seatAt seats i = t) (before : t.isEnded = true) (after : s.isEnded = true) :
    Launched width size (seats.set i s) launched permits holding launching closed := by
  have plain : ∀ {s : Seat P}, s.isEnded = true -> s ≠ .waiting ∧ s.hasPermit = false := by
    intro s ended
    cases s <;> simp_all [Seat.isEnded, Seat.hasPermit]
  exact held.set_taken seat (plain before).1 (plain after).1 0
    (by rw [(plain before).2, (plain after).2]; rfl)

theorem end_probe (held : Launched width size seats launched permits holding launching closed)
    (before : seatAt seats i = .probing) (after : s.isEnded = true) :
    Launched width size (seats.set i s) launched (permits + 1) holding launching closed := by
  refine held.set_taken before nofun ?_ 1 ?_ <;> cases s <;> simp_all [Seat.isEnded, Seat.hasPermit]

theorem call (held : Launched width size seats launched permits holding launching closed)
    (before : seatAt seats i = .spawned) :
    Launched width size (seats.set i .probing) launched permits holding launching closed :=
  held.set_taken (s := .probing) before nofun nofun 0 rfl

theorem take (held : Launched width size seats launched (permits + 1) false launching closed)
    (going : launching = true) (more : launched < size) :
    Launched width size seats launched permits true launching closed := by
  refine ⟨held.length, held.most, held.waiting, ?_, fun _ => more, fun left => ?_⟩
  · rw [← held.budget]
    simp only [Bool.toNat_true, Bool.toNat_false]
  · simp [going] at left

theorem spawn (held : Launched width size seats launched permits true launching closed)
    (going : launching = true) :
    Launched width size (seats.set launched .spawned) (launched + 1) permits false launching
      closed := by
  have more := held.room rfl
  have inside : launched < seats.length := held.length ▸ more
  have old : seats[launched] = .waiting := by
    simpa [seatAt, inside] using (held.waiting launched).mpr (Nat.le_refl _)
  refine ⟨by simpa using held.length, more, fun j => ?_, ?_, nofun,
    fun left => by simp [going] at left⟩
  · rw [seatAt_set inside]
    by_cases same : launched = j
    next =>
      subst same
      simp
    next =>
      rw [if_neg same, held.waiting]
      omega
  · have budget := held.budget
    simp [List.countP_set inside, old, Seat.hasPermit] at budget ⊢
    omega

theorem leave (held : Launched width size seats launched permits false launching closed)
    (spent : closed = true ∨ size ≤ launched) :
    Launched width size seats launched permits false false closed :=
  ⟨held.length, held.most, held.waiting, held.budget, nofun,
    fun _ => ⟨rfl, spent.imp_right fun all => Nat.le_antisymm held.most all⟩⟩

theorem close (held : Launched width size seats launched permits holding launching closed) :
    Launched width size seats launched permits holding launching true :=
  ⟨held.length, held.most, held.waiting, held.budget, held.room,
    fun left => ⟨(held.leaves left).1, .inl rfl⟩⟩

theorem map (held : Launched width size seats launched permits holding launching closed)
    (f : Seat P -> Seat P) (permit : ∀ s, (f s).hasPermit = s.hasPermit)
    (waiting : ∀ s, f s = .waiting ↔ s = .waiting) :
    Launched width size (seats.map f) launched permits holding launching closed := by
  refine ⟨by simpa using held.length, held.most, fun i => ?_, ?_, held.room, held.leaves⟩
  · rw [seatAt_map f ((waiting .waiting).mpr rfl), waiting, held.waiting]
  · have same : Seat.hasPermit ∘ f = (Seat.hasPermit : Seat P -> Bool) := funext permit
    rw [List.countP_map, same]
    exact held.budget

theorem dispatch (held : Launched width size seats launched permits holding launching closed)
    (cutoff : Nat) :
    Launched width size (Run.dispatchSeats cutoff seats) launched permits holding launching
      closed := by
  have fetching : Seat.hasPermit ∘ Seat.fetch = (Seat.hasPermit : Seat P -> Bool) :=
    funext fun s => by cases s <;> rfl
  have freed : Seat.hasPermit ∘ Seat.freeHeld = (Seat.hasPermit : Seat P -> Bool) :=
    funext fun s => by cases s <;> rfl
  refine ⟨by rw [length_dispatchSeats, held.length], held.most, fun i => ?_, ?_, held.room,
    held.leaves⟩
  · rw [seatAt_dispatchSeats, ← held.waiting i]
    split <;> cases seatAt seats i <;> simp [Seat.fetch, Seat.freeHeld]
  · rw [Run.dispatchSeats, List.countP_append, List.countP_map, List.countP_map, fetching, freed,
      ← List.countP_append, List.take_append_drop]
    exact held.budget

end Launched

end FleetSearch.Search
