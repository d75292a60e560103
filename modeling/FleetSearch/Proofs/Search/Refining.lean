import FleetSearch.Proofs.Search.Granting
import FleetSearch.Proofs.Search.Turns
import FleetSearch.Search.Gate

set_option autoImplicit false

/-!
What a run keeps of its limiter and of its gates. The permits of a run are those of a pool that the
launcher and the workers use, and a repository that has reported stands where its gate stands.
-/

namespace FleetSearch.Search

variable {P : Type}

def Seat.acquirer (s : Seat P) : Acquirer :=
  if s.hasPermit then .held else .released

namespace Run

/-- The pool behind a run. Its acquirers are the workers in their order, and after them the launcher
while it has a permit in its hand. -/
def pool (r : Run P) : Permits where
  available := r.permits
  closed := r.closed
  acquirers := (List.range r.launched).map (fun i => (seatAt r.seats i).acquirer) ++
    if r.holding then [.held] else []

theorem pool_congr {r next : Run P} (permits : next.permits = r.permits)
    (closed : next.closed = r.closed) (launched : next.launched = r.launched)
    (holding : next.holding = r.holding)
    (seats : ∀ i, i < r.launched ->
      (seatAt next.seats i).hasPermit = (seatAt r.seats i).hasPermit) :
    next.pool = r.pool := by
  have same : (List.range r.launched).map (fun i => (seatAt next.seats i).acquirer) =
      (List.range r.launched).map fun i => (seatAt r.seats i).acquirer :=
    List.map_congr_left fun i member => by
      rw [Seat.acquirer, seats i (List.mem_range.mp member), Seat.acquirer]
  rw [pool, permits, closed, launched, holding, same, pool]

theorem stateOf_pool {r : Run P} {i : Nat} (taken : i < r.launched) :
    r.pool.stateOf i = some (seatAt r.seats i).acquirer := by
  simp [Permits.stateOf, pool, List.getElem?_append_left, taken]

end Run

theorem Seat.Goes.keepsPermit {sources : List (Source P)} {i : Nat} {m : Move} {s next : Seat P}
    (goes : Goes sources i m s next) (other : m ≠ .endProbe i) (taken : s ≠ .waiting) :
    next.hasPermit = s.hasPermit := by
  cases goes <;> simp_all [Seat.hasPermit]

namespace Run.Step

variable {sources : List (Source P)} {width : Nat} {r next : Run P} {m : Move}
  {events : List (Event P)}

theorem pool_release (held : r.Controlled width) {i : Nat} {s : Seat P}
    (seat : seatAt r.seats i = .probing) (ended : s.hasPermit = false)
    (permits : next.permits = r.permits + 1) (closed : next.closed = r.closed)
    (launched : next.launched = r.launched) (holding : next.holding = r.holding)
    (seats : next.seats = r.seats.set i s) :
    r.pool.stateOf i = some .held ∧ next.pool = r.pool.release i := by
  have inside : i < r.seats.length := lt_length_of_seatAt (by simp [seat])
  have taken : i < r.launched := by
    by_contra late
    have waits := (held.launched.waiting i).mpr (Nat.le_of_not_lt late)
    simp [seat] at waits
  have holds : r.pool.stateOf i = some .held := by
    rw [stateOf_pool taken, seat]
    rfl
  refine ⟨holds, ?_⟩
  rw [Permits.release_alone holds rfl]
  have marked : (List.range r.launched).map (fun j => (seatAt next.seats j).acquirer) =
      ((List.range r.launched).map fun j => (seatAt r.seats j).acquirer).set i .released := by
    refine List.ext_getElem (by simp) fun j _ _ => ?_
    simp only [List.getElem_map, List.getElem_range, seats, seatAt_set inside, List.getElem_set]
    split <;> simp [Seat.acquirer, ended]
  simp only [pool, Permits.mark, permits, closed, launched, holding, marked]
  rw [List.set_append_left _ _ (by simpa using taken)]

/-- A move takes a permit from the pool, gives one back, closes the pool, or leaves it as it is. -/
theorem pool (step : Step sources r m events next) (held : r.Controlled width) :
    next.pool = r.pool ∨ m = .launch ∧ next.pool = r.pool.acquire ∨
      (∃ i, m = .endProbe i ∧ r.pool.stateOf i = some .held ∧ next.pool = r.pool.release i) ∨
      m = .advance ∧ next.pool = r.pool.close := by
  have goes := step.goes held
  have kept : next.permits = r.permits -> next.closed = r.closed -> next.launched = r.launched ->
      next.holding = r.holding -> (∀ i, m ≠ .endProbe i) -> next.pool = r.pool := by
    intro permits closed launched holding other
    refine pool_congr permits closed launched holding fun i before => ?_
    refine (goes i).keepsPermit (other i) fun waits => ?_
    have late := (held.launched.waiting i).mp waits
    omega
  cases step with
  | take permits launching empty unclosed more free =>
    refine .inr (.inl ⟨rfl, ?_⟩)
    simp [Run.pool, Permits.acquire, unclosed, free, empty]
  | spawn launching holding =>
    have inside : r.launched < r.seats.length := held.launched.length ▸ held.launched.room holding
    have before : (List.range r.launched).map
          (fun i => (seatAt (r.seats.set r.launched .spawned) i).acquirer) =
        (List.range r.launched).map fun i => (seatAt r.seats i).acquirer :=
      List.map_congr_left fun i member => by
        rw [seatAt_set_ne (Nat.ne_of_gt (List.mem_range.mp member))]
    have own : (seatAt (r.seats.set r.launched .spawned) r.launched).acquirer = .held := by
      rw [seatAt_set_self inside]
      rfl
    refine .inl ?_
    simp [Run.pool, put, List.range_succ, before, own, holding]
  | close failure phase =>
    refine .inr (.inr (.inr ⟨rfl, ?_⟩))
    have nobody : ∀ a ∈ r.pool.acquirers, a ≠ .waiting := by
      intro a member
      rcases List.mem_append.mp member with worker | launcher
      · obtain ⟨i, _, rfl⟩ := List.mem_map.mp worker
        rw [Seat.acquirer]
        split <;> simp
      · split at launcher <;> simp_all
    have same : r.pool.acquirers.map (fun a => if a = .waiting then .refused else a) =
        r.pool.acquirers := by
      refine (List.map_congr_left fun a member => ?_).trans (List.map_id _)
      rw [if_neg (nobody a member), id]
    rw [Permits.close, same]
    rfl
  | loseProbe i seat lost =>
    exact .inr (.inr (.inl ⟨i, rfl, pool_release held seat rfl rfl rfl rfl rfl rfl⟩))
  | report i report seat reports listening =>
    exact .inr (.inr (.inl ⟨i, rfl, pool_release held seat rfl rfl rfl rfl rfl rfl⟩))
  | missReport i seat reports deaf =>
    exact .inr (.inr (.inl ⟨i, rfl, pool_release held seat rfl rfl rfl rfl rfl rfl⟩))
  | idle => exact .inl rfl
  | reap m i rest mail calm =>
    rcases calm with ⟨rfl, _⟩ | ⟨rfl, _⟩ <;> exact .inl (kept rfl rfl rfl rfl (by simp))
  | _ => exact .inl (kept rfl rfl rfl rfl (by simp))

end Run.Step

theorem Run.play_pool (sources : List (Source P)) {width : Nat} {r : Run P}
    (held : r.Controlled width) (moves : List Move) :
    ∃ acts : List Permits.Act, (r.play sources moves).1.pool = acts.foldl Permits.act r.pool := by
  induction moves generalizing r with
  | nil => exact ⟨[], rfl⟩
  | cons m rest ih =>
    have step := move_step sources r m
    obtain ⟨acts, went⟩ := ih (step.controlled held)
    rw [play, went]
    rcases step.pool held with same | ⟨_, taken⟩ | ⟨i, _, _, back⟩ | ⟨_, shut⟩
    · exact ⟨acts, by rw [same]⟩
    · exact ⟨.acquire :: acts, by rw [taken]; rfl⟩
    · exact ⟨.release i :: acts, by rw [back]; rfl⟩
    · exact ⟨.close :: acts, by rw [shut]; rfl⟩

theorem Run.start_pool (repos : List String) (request : Request) (maxProbes nextLimit : Nat) :
    let start : Run P := Run.start repos request maxProbes nextLimit
    ∃ acts : List Permits.Act, start.pool =
      acts.foldl Permits.act { available := min start.names.length maxProbes } := by
  intro start
  by_cases vacant : (repos.drop (min request.offset repos.length)).isEmpty || request.limit = 0
  next =>
    refine ⟨[.close], ?_⟩
    simp only [start, Run.start, if_pos vacant]
    rfl
  next =>
    refine ⟨[], ?_⟩
    simp only [start, Run.start, if_neg vacant]
    rfl

namespace Permits

theorem fair_full (width : Nat) : ({ available := width } : Permits).Fair width := by
  refine ⟨rfl, List.Pairwise.nil, fun id => ⟨nofun, fun waits => ?_⟩, nofun, fun _ => rfl,
    fun i j _ waits => ?_⟩ <;> simp [stateOf] at waits

theorem Fair.acts {width : Nat} {p : Permits} (fair : p.Fair width) (acts : List Act) :
    (acts.foldl Permits.act p).Fair width := by
  induction acts generalizing p with
  | nil => exact fair
  | cons a rest ih => exact ih (fair.act a)

end Permits

inductive GatePair.Act where
  | wait
  | fire
  | drop

def GatePair.act (p : GatePair) : GatePair.Act -> GatePair
  | .wait => p.wait.2
  | .fire => p.fire.2
  | .drop => p.dropGate.2

theorem GatePair.act_opens (m : Move) :
    let p := GatePair.act { waiter := .waiting } (if m = .abort then .drop else .fire)
    p.gate ≠ .shut ∧ p.waiter = .resumed := by
  by_cases given : m = .abort <;>
    simp [given, GatePair.act, GatePair.dropGate, GatePair.fire, GatePair.wake]

namespace Seat

-- Where the gate of a repository stands. There is none before the probe has ended.
def Gated (p : GatePair) : Seat P -> Prop
  | .waiting => p = {}
  | .spawned => p = {}
  | .probing => p = {}
  | .lost => p = {}
  | .reported _ => p = { waiter := .waiting }
  | .held _ => p = { waiter := .waiting }
  | .fetching _ => p = { waiter := .waiting }
  | .fetched _ => p = { waiter := .waiting }
  | .freed => p.gate ≠ .shut ∧ p.waiter = .resumed
  | .released => p.gate ≠ .shut ∧ p.waiter = .resumed

def opens (m : Move) : Seat P -> Seat P -> List GatePair.Act
  | .probing, .reported _ => [.wait]
  | .probing, .freed => [.drop, .wait]
  | .fetching _, .freed => [.drop]
  | .reported _, .freed => [if m = .abort then .drop else .fire]
  | .held _, .freed => [if m = .abort then .drop else .fire]
  | .fetched _, .freed => [if m = .abort then .drop else .fire]
  | _, _ => []

theorem Goes.gated {sources : List (Source P)} {i : Nat} {m : Move} {s next : Seat P}
    (goes : Goes sources i m s next) {p : GatePair} (before : s.Gated p) :
    next.Gated ((s.opens m next).foldl GatePair.act p) := by
  cases goes with
  | stay =>
    have still : s.opens m s = [] := by cases s <;> rfl
    rwa [still]
  | spawn | call | lose | hold | fetch | bring | release => exact before
  | report report reports =>
    obtain rfl : p = {} := before
    rfl
  | miss alive =>
    obtain rfl : p = {} := before
    exact ⟨nofun, rfl⟩
  | missResult payload =>
    obtain rfl : p = { waiter := .waiting } := before
    exact ⟨nofun, rfl⟩
  | drop m report =>
    obtain rfl : p = { waiter := .waiting } := before
    exact GatePair.act_opens m
  | letGo m payload =>
    obtain rfl : p = { waiter := .waiting } := before
    exact GatePair.act_opens m
  | collect m result =>
    obtain rfl : p = { waiter := .waiting } := before
    exact GatePair.act_opens m

end Seat

theorem Run.play_gated (sources : List (Source P)) {width : Nat} {r : Run P}
    (held : r.Controlled width) (i : Nat) {p : GatePair} (before : (seatAt r.seats i).Gated p)
    (moves : List Move) :
    ∃ acts : List GatePair.Act,
      (seatAt (r.play sources moves).1.seats i).Gated (acts.foldl GatePair.act p) := by
  induction moves generalizing r p with
  | nil => exact ⟨[], before⟩
  | cons m rest ih =>
    have step := move_step sources r m
    obtain ⟨acts, gated⟩ := ih (step.controlled held) ((step.goes held i).gated before)
    exact ⟨_ ++ acts, by rwa [List.foldl_append]⟩

namespace Runs

/-- Whatever the schedule, what run `k` keeps of its limiter is a fair pool of as many permits as it
has probes side by side, and each of its repositories stands where a gate can stand. -/
theorem limiter_and_gates (sources : Nat -> List (Source P)) (maxProbes nextLimit : Nat)
    (turns : List Turn) (k : Nat) (r : Run P)
    (there : ((idle maxProbes nextLimit).play sources turns).1.runs[k]? = some r) :
    let range := (sources k).drop (min r.request.offset (sources k).length)
    let budget := min range.length (max maxProbes 1)
    (∃ acts : List Permits.Act,
        r.pool = acts.foldl Permits.act { available := budget } ∧ r.pool.Fair budget) ∧
      ∀ i, ∃ acts : List GatePair.Act, (r.seat i).Gated (acts.foldl GatePair.act {}) := by
  intro range budget
  obtain ⟨request, moves, _, same, _⟩ := play_begun sources _ turns k r (Nat.zero_le _) there
  have lawful := Run.start_lawful (sources k) request (max maxProbes 1) nextLimit
  have own : r.request = request := by
    rw [same]
    exact (Run.play_given _ _ moves).1.trans (Run.start_given _ _ _ _).1
  subst own
  obtain ⟨begun, begins⟩ := Run.start_pool (P := P) ((sources k).map Source.name) r.request
    (max maxProbes 1) nextLimit
  rw [lawful.length] at begins
  refine ⟨?_, fun i => ?_⟩
  · obtain ⟨acts, went⟩ := Run.play_pool ((sources k).drop _) lawful.controlled moves
    have all : r.pool = (begun ++ acts).foldl Permits.act { available := budget } := by
      rw [List.foldl_append, ← begins, ← went]
      exact congrArg Run.pool same
    exact ⟨_, all, all ▸ (Permits.fair_full budget).acts _⟩
  · have idle : (seatAt (Run.start ((sources k).map Source.name) r.request (max maxProbes 1)
        nextLimit : Run P).seats i).Gated {} := by
      rw [Run.start_seats]
      rfl
    obtain ⟨acts, gated⟩ :=
      Run.play_gated ((sources k).drop _) lawful.controlled i idle moves
    exact ⟨acts, (congrArg (fun r : Run P => (seatAt r.seats i).Gated _) same).mpr gated⟩

end Runs

end FleetSearch.Search
