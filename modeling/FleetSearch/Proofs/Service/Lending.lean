import FleetSearch.Service.Search
import FleetSearch.Proofs.Search.Barrier
import FleetSearch.Proofs.Sync.Traffic

set_option autoImplicit false

/-!
The trees that the searches of a service have borrowed. Every probe borrows the tree of its checkout
before anything else, so whatever it brings, it has a loan; and every loan comes back, since no
probe of a checkout dies. So a checkout counts as many probes as have its tree, none when nothing
works for a search any more, and nobody gives back what nobody has borrowed.
-/

namespace FleetSearch

open FleetSearch.Checkout FleetSearch.Search

theorem Search.Seat.Goes.living {P : Type} {sources : List (Source P)} {i : Nat} {m : Move}
    {s next : Seat P} (goes : Seat.Goes sources i m s next) (lives : s ≠ .lost)
    (alive : m = .endProbe i -> s = .probing -> probeAt sources i ≠ .lost) : next ≠ .lost := by
  cases goes with
  | stay => exact lives
  | lose lost => exact absurd lost (alive rfl rfl)
  | _ => nofun

namespace Service

def endings (s : Service) (k : Nat) : List (Source Candidates) :=
  (List.range ((s.scopes[k]?).getD []).length).map fun g =>
    { name := (s.checkout (s.placeOf k g)).name
      probe := s.probeEnding { call := .probe, run := k, repo := g }
      fetch := fun _ => s.fetchEnding { call := .fetch, run := k, repo := g } }

def enterSearch (s : Service) (scope : List Nat) (request : Request) : Service :=
  { s with
    scopes := s.scopes ++ [scope]
    searches := s.searches.enter (s.namesOf scope) request }

structure Untouched (s : Service) : Prop where
  searches : s.searches.runs = []
  scopes : s.scopes = []
  trees : ∀ c ∈ s.fleet.checkouts, c.tree = {}
  jobs : s.fleet.jobs = []
  queue : s.fleet.queue = []

theorem probeEnding_ne_lost (s : Service) (c : Started) : s.probeEnding c ≠ .lost := by
  unfold probeEnding
  dsimp only
  split <;> nofun

end Service

/-- A service, and the loans of its searches. -/
structure Lending where
  service : Service
  loans : List Loan := []

namespace Lending

def traffic (l : Lending) : Traffic Candidates where
  searches := l.service.searches
  fleet := l.service.fleet
  loans := l.loans

def note (l : Lending) (n : Notice Candidates) : Lending where
  service := l.service.note n
  loans := (l.traffic.note l.service.placeOf n).loans

def taking (l : Lending) (searches : Runs Candidates) : Lending :=
  { l with service := { l.service with searches } }

def follow (l : Lending) (run : Nat) (step : Runs Candidates × List (Notice Candidates)) :
    Lending where
  service := l.service.follow run step
  loans := (step.2.foldl note (l.taking step.1)).loans

def Ready (l : Lending) (k i : Nat) : Prop :=
  ∀ r, l.service.searches.runs[k]? = some r ->
    ∀ loan ∈ l.loans, loan.run = k -> loan.place = r.offset + i -> loan.stage ≠ .asked

def beginSearch (l : Lending) (scope : List Nat) (request : Request) : Lending :=
  { l with service := { l.service with scopes := l.service.scopes ++ [scope] } }.follow
    l.service.searches.runs.length
    (l.service.searches.begin (l.service.namesOf scope) request)

def endCall (l : Lending) (c : Started) : Lending :=
  match c.call with
  | .probe => l.follow c.run (l.service.searches.endProbe c (l.service.probeEnding c))
  | .fetch => l.follow c.run (l.service.searches.endFetch c (l.service.fetchEnding c))

inductive Searches (l : Lending) : Lending -> Prop
  -- one move after the other
  | enter (scope : List Nat) (request : Request)
      (known : ∀ i ∈ scope, i < l.service.fleet.checkouts.length) :
    Searches l { l with service := l.service.enterSearch scope request }
  | move (k : Nat) (m : Move) (ready : ∀ i, m = .endProbe i -> l.Ready k i) :
    Searches l (l.follow k (l.service.searches.go l.service.endings k m))
  -- all that can go on does so at once
  | beginSearch (scope : List Nat) (request : Request)
      (known : ∀ i ∈ scope, i < l.service.fleet.checkouts.length) :
    Searches l (l.beginSearch scope request)
  | endCall (c : Started) (ready : c.call = .probe -> ∀ r,
      l.service.searches.runs[c.run]? = some r -> l.Ready c.run (c.repo - r.offset)) :
    Searches l (l.endCall c)
  | abort (run : Nat) : Searches l (l.follow run (l.service.searches.abort run))
  | shutdown :
    Searches l (l.taking l.service.searches.shutdown)

inductive Step (l : Lending) : Lending -> Prop
  | search (next : Lending) (goes : l.Searches next) : Step l next
  | apart (a : Fleet.Act) (other : ∀ i, a ≠ .borrow i) (apart : ∀ i, a ≠ .giveBack i)
      (after : Service) (fleet : after.fleet = l.service.fleet.act a)
      (searches : after.searches = l.service.searches) (scopes : after.scopes = l.service.scopes) :
    Step l { service := after, loans := l.loans.map (Loan.enter after.fleet) }

theorem isWritten_changeTree (f : Fleet) (i : Nat) (g : Tree -> Tree)
    (same : ∀ t, (g t).writing = t.writing) (j : Nat) :
    (f.changeTree i g).isWritten j = f.isWritten j := by
  rw [Fleet.isWritten, Fleet.changeTree, Fleet.checkout_change]
  split
  next =>
    rw [Option.map_map, Fleet.isWritten]
    congr 2
    funext c
    exact same c.tree
  next => rfl

structure Noted (s next : Service) : Prop where
  rest : next = { s with fleet := next.fleet, log := next.log }
  length : next.fleet.checkouts.length = s.fleet.checkouts.length
  written : ∀ i, next.fleet.isWritten i = s.fleet.isWritten i

theorem Noted.trans {s next last : Service} (first : Noted s next) (second : Noted next last) :
    Noted s last := by
  refine ⟨?_, second.length.trans first.length, fun i => (second.written i).trans (first.written i)⟩
  rw [second.rest, first.rest]

theorem Noted.placeOf {s next : Service} (noted : Noted s next) : next.placeOf = s.placeOf := by
  funext run i
  rw [Service.placeOf, Service.placeOf, noted.length, noted.rest]

theorem noted_borrow (s : Service) (i : Nat) : Noted s (s.borrow i) := by
  refine ⟨rfl, List.length_modify .., isWritten_changeTree _ _ _ fun t => ?_⟩
  unfold Tree.borrow
  split <;> rfl

theorem noted_giveBack (s : Service) (i : Nat) : Noted s (s.giveBack i) := by
  have written : ∀ f : Fleet, ∀ j, (f.giveBack i).isWritten j = f.isWritten j := fun f j =>
    isWritten_changeTree f i Tree.giveBack (fun _ => rfl) j
  unfold Service.giveBack Service.write
  dsimp only
  split <;> exact ⟨rfl, List.length_modify .., fun j => written _ j⟩

theorem noted_note (s : Service) (n : Notice Candidates) : Noted s (s.note n) := by
  unfold Service.note
  split
  next => exact noted_borrow _ _
  next => exact ⟨rfl, rfl, fun _ => rfl⟩
  next => exact noted_giveBack _ _

theorem noted_fold (notices : List (Notice Candidates)) (l : Lending) :
    Noted l.service (notices.foldl note l).service := by
  induction notices generalizing l with
  | nil => exact ⟨rfl, rfl, fun _ => rfl⟩
  | cons n rest ih => exact (noted_note l.service n).trans (ih (l.note n))

theorem fold_service (notices : List (Notice Candidates)) (l : Lending) :
    (notices.foldl note l).service = notices.foldl Service.note l.service := by
  induction notices generalizing l with
  | nil => rfl
  | cons n rest ih => exact ih (l.note n)

theorem note_fleet (s : Service) (n : Notice Candidates) (t : Traffic Candidates)
    (same : s.fleet = t.fleet) :
    (s.note n).fleet = (t.note s.placeOf n).fleet ∧ (s.note n).searches = s.searches := by
  unfold Service.note Traffic.note
  split
  next g event =>
    simp only [event, Service.borrow, Traffic.ask, Traffic.letIn, same]
    exact ⟨trivial, trivial⟩
  next event =>
    simp only [event]
    exact ⟨same, trivial⟩
  next g event =>
    simp only [event, Service.giveBack, Traffic.handBack, Service.write]
    split <;> exact ⟨by rw [same], rfl⟩

theorem note_traffic (l : Lending) (n : Notice Candidates) :
    (l.note n).traffic = l.traffic.note l.service.placeOf n := by
  obtain ⟨fleet, searches⟩ := note_fleet l.service n l.traffic rfl
  have same := Traffic.note_searches l.service.placeOf l.traffic n
  cases noted : l.traffic.note l.service.placeOf n
  simp_all [traffic, note]

theorem fold_traffic (notices : List (Notice Candidates)) (l : Lending) :
    (notices.foldl note l).traffic =
      notices.foldl (Traffic.note l.service.placeOf) l.traffic := by
  induction notices generalizing l with
  | nil => rfl
  | cons n rest ih =>
    rw [List.foldl_cons, List.foldl_cons, ih, note_traffic, ← (noted_note l.service n).placeOf]
    rfl

theorem fold_fetches (notices : List (Notice Candidates)) (l : Lending)
    (fetches : ∀ n ∈ notices, ∃ g payload, n.event = .fetch g payload) :
    notices.foldl note l = l := by
  induction notices with
  | nil => rfl
  | cons n rest ih =>
    obtain ⟨g, payload, event⟩ := fetches n List.mem_cons_self
    have same : l.note n = l := by simp [note, Service.note, Traffic.note, event, traffic]
    rw [List.foldl_cons, same]
    exact ih fun other member => fetches other (List.mem_cons_of_mem _ member)

structure Kept (l : Lending) (runs : List (Run Candidates)) : Prop where
  queueing : l.service.fleet.Queueing
  shared : Traffic.Shared l.service.fleet l.loans
  lent : Traffic.Lent l.service.placeOf runs l.loans
  paired : l.service.scopes.length = runs.length
  known : ∀ scope ∈ l.service.scopes, ∀ i ∈ scope, i < l.service.fleet.checkouts.length
  ranged : ∀ (k : Nat) (r : Run Candidates) (scope : List Nat), runs[k]? = some r ->
    l.service.scopes[k]? = some scope -> r.offset + r.names.length ≤ scope.length
  controlled : ∀ (k : Nat) (r : Run Candidates), runs[k]? = some r -> ∃ width, r.Controlled width
  living : ∀ (k : Nat) (r : Run Candidates), runs[k]? = some r -> ∀ i, seatAt r.seats i ≠ .lost

-- Nobody has given back what nobody had borrowed: only that a search failed is told.
def Quiet (s next : Service) : Prop :=
  next.log = s.log ∨ ∃ failure : Failure,
    next.log = { level := .warn, text := "Search failed: " ++ failure.message } :: s.log

namespace Kept

variable {l : Lending} {runs : List (Run Candidates)} {k width : Nat} {r next : Run Candidates}
  {m : Move} {events : List (Event Candidates)} {sources : List (Source Candidates)}

theorem along (kept : l.Kept runs) {other : Lending} (fleet : other.service.fleet = l.service.fleet)
    (scopes : other.service.scopes = l.service.scopes) (loans : other.loans = l.loans) :
    other.Kept runs := by
  have place : other.service.placeOf = l.service.placeOf := by
    funext run i
    rw [Service.placeOf, Service.placeOf, fleet, scopes]
  refine ⟨fleet ▸ kept.queueing, ?_, ?_, scopes ▸ kept.paired, ?_, ?_, kept.controlled,
    kept.living⟩
  · rw [fleet, loans]
    exact kept.shared
  · rw [place, loans]
    exact kept.lent
  · rw [fleet, scopes]
    exact kept.known
  · rw [scopes]
    exact kept.ranged

theorem placed (kept : l.Kept runs) (there : runs[k]? = some r) {i : Nat}
    (inside : i < r.names.length) :
    l.service.placeOf k (r.offset + i) < l.service.fleet.checkouts.length := by
  obtain ⟨begun, _⟩ := List.getElem?_eq_some_iff.mp there
  have begun : k < l.service.scopes.length := kept.paired ▸ begun
  have scope : l.service.scopes[k]? = some l.service.scopes[k] := List.getElem?_eq_getElem begun
  have ranged := kept.ranged k r _ there scope
  have place : r.offset + i < l.service.scopes[k].length := by omega
  apply kept.known _ (List.mem_of_getElem? scope)
  simp [Service.placeOf, scope, place]

theorem inside (kept : l.Kept runs) (there : runs[k]? = some r) {i : Nat}
    (taken : seatAt r.seats i ≠ .waiting) : i < r.names.length := by
  obtain ⟨width, held⟩ := kept.controlled k r there
  rw [← held.launched.length]
  exact lt_length_of_seatAt taken

theorem outstanding (kept : l.Kept runs) (there : runs[k]? = some r) {i : Nat}
    (seat : seatAt r.seats i = .freed) :
    0 < l.service.fleet.outstanding (l.service.placeOf k (r.offset + i)) := by
  obtain ⟨loan, member, run, place, given⟩ := Traffic.given_of_freed kept.lent there seat
  have placed := kept.placed there (kept.inside there (i := i) (by simp [seat]))
  have here := List.getElem?_eq_getElem placed
  have counted := (kept.shared.counted _ _ here).1
  have has : Loan.has (l.service.placeOf k (r.offset + i)) loan = true := by
    simp [Loan.has, given, kept.lent.placed loan member, run, place]
  have some := List.countP_pos_iff.mpr ⟨loan, member, has⟩
  simp [Fleet.outstanding, Fleet.checkout?, here]
  omega

theorem move (kept : l.Kept runs) (there : runs[k]? = some r)
    (step : Run.Step sources r m events next)
    (alive : ∀ i, m = .endProbe i -> seatAt r.seats i = .probing -> probeAt sources i ≠ .lost)
    (ready : ∀ i, m = .endProbe i -> ∀ loan ∈ l.loans, loan.run = k ->
      loan.place = r.offset + i -> loan.stage ≠ .asked) :
    let last := (events.map fun e => { run := k, event := e.shift r.offset }).foldl Lending.note l
    last.Kept (runs.set k next) ∧ last.service.log = l.service.log := by
  intro last
  obtain ⟨width, held⟩ := kept.controlled k r there
  obtain ⟨_, names, offset, _⟩ := step.given
  obtain ⟨inside, _⟩ := List.getElem?_eq_some_iff.mp there
  have noted : Noted l.service last.service := noted_fold _ l
  have traffic := fold_traffic (events.map fun e => { run := k, event := e.shift r.offset }) l
  obtain ⟨queueing, _, shared, lent⟩ := Traffic.move_parts (t := l.traffic) kept.queueing
    kept.shared kept.lent there step held ready
  rw [offset, ← traffic] at queueing shared lent
  have after : ∀ (j : Nat) (other : Run Candidates), (runs.set k next)[j]? = some other ->
      j = k ∧ other = next ∨ runs[j]? = some other := by
    intro j other here
    by_cases own : k = j
    next =>
      subst own
      rw [List.getElem?_set_self inside] at here
      exact .inl ⟨rfl, (Option.some.inj here).symm⟩
    next =>
      rw [List.getElem?_set_ne own] at here
      exact .inr here
  have scopes : last.service.scopes = l.service.scopes := by rw [noted.rest]
  refine ⟨⟨queueing, shared, ?_, ?_, ?_, fun j other scope here range => ?_, fun j other here => ?_,
    fun j other here i dead => ?_⟩, ?_⟩
  · rw [noted.placeOf]
    exact lent
  · rw [scopes, List.length_set]
    exact kept.paired
  · rw [scopes, noted.length]
    exact kept.known
  · rw [scopes] at range
    rcases after j other here with ⟨rfl, rfl⟩ | old
    · rw [offset, names]
      exact kept.ranged j r scope there range
    · exact kept.ranged j other scope old range
  · rcases after j other here with ⟨rfl, rfl⟩ | old
    · exact ⟨width, step.controlled held⟩
    · exact kept.controlled j other old
  · rcases after j other here with ⟨rfl, rfl⟩ | old
    · exact (step.goes held i).living (kept.living j r there i) (alive i) dead
    · exact kept.living j other old i dead
  · have lends := step.lends held
    cases lends with
    | up i inside seat seats => rfl
    | back i seat seats =>
      have some := kept.outstanding there seat
      simp only [last, List.map_cons, List.map_nil, List.foldl_cons, List.foldl_nil, note,
        Service.note, Event.shift, Service.giveBack]
      rw [if_neg (by omega)]
    | none _ fetches =>
      simp only [last]
      rw [fold_fetches]
      intro n member
      obtain ⟨e, here, rfl⟩ := List.mem_map.mp member
      obtain ⟨i, payload, rfl⟩ := fetches e here
      exact ⟨_, _, rfl⟩

theorem moves (kept : l.Kept runs) (there : runs[k]? = some r) (moves : List Move)
    (own : ∀ m ∈ moves, m.isOwn = true) :
    let last := ((r.play sources moves).2.map fun e =>
      { run := k, event := e.shift r.offset }).foldl Lending.note l
    last.Kept (runs.set k (r.play sources moves).1) ∧ last.service.log = l.service.log := by
  induction moves generalizing l runs r with
  | nil =>
    obtain ⟨inside, here⟩ := List.getElem?_eq_some_iff.mp there
    simp only [Run.play, List.map_nil, List.foldl_nil, ← here, List.set_getElem_self, and_true]
    exact kept
  | cons m rest ih =>
    obtain ⟨first, others⟩ := List.forall_mem_cons.mp own
    have step := Run.move_step sources r m
    obtain ⟨next, log⟩ := kept.move there step (fun i same => by simp [same, Move.isOwn] at first)
      fun i same => by simp [same, Move.isOwn] at first
    obtain ⟨inside, _⟩ := List.getElem?_eq_some_iff.mp there
    have now : (runs.set k (r.move sources m).1)[k]? = some (r.move sources m).1 :=
      List.getElem?_set_self inside
    obtain ⟨last, told⟩ := ih next now others
    rw [step.given.2.2.1, List.set_set] at last
    rw [step.given.2.2.1] at told
    simp only [Run.play, List.map_append, List.foldl_append]
    exact ⟨last, told.trans log⟩

theorem taking (kept : l.Kept runs) (searches : Runs Candidates) : (l.taking searches).Kept runs :=
  kept.along rfl rfl rfl

theorem followed (step : Runs Candidates × List (Notice Candidates)) {last : Lending}
    (fold : step.2.foldl Lending.note (l.taking step.1) = last) (kept : last.Kept step.1.runs)
    (log : last.service.log = l.service.log) (run : Nat) :
    (l.follow run step).Kept (l.follow run step).service.searches.runs ∧
      Quiet l.service (l.follow run step).service := by
  have service : step.2.foldl Service.note { l.service with searches := step.1 } = last.service := by
    rw [← fold, fold_service]
    rfl
  have searches : last.service.searches = step.1 := by
    have noted := noted_fold step.2 (l.taking step.1)
    rw [fold] at noted
    rw [noted.rest]
    rfl
  have loans : (l.follow run step).loans = last.loans := by rw [follow, fold]
  simp only [follow, Service.follow, service, fold]
  split
  next failure _ failed =>
    refine ⟨?_, .inr ⟨failure, ?_⟩⟩
    · rw [Service.write, searches]
      exact kept.along rfl rfl rfl
    · rw [Service.write, log]
  next =>
    rw [searches]
    exact ⟨kept, .inl log⟩

theorem settles (kept : l.Kept runs) (there : runs[k]? = some r) :
    let last := (r.settle.2.map fun e =>
      { run := k, event := e.shift r.settle.1.offset }).foldl Lending.note l
    last.Kept (runs.set k r.settle.1) ∧ last.service.log = l.service.log := by
  obtain ⟨moves, own, settled⟩ := Run.settle_own [] r
  have offset := (Run.play_given [] r moves).2.1
  rw [settled, offset]
  exact kept.moves there moves own

theorem change (kept : l.Kept l.service.searches.runs) (k : Nat)
    (f : Run Candidates -> Run Candidates) (sources : List (Source Candidates)) (m : Move)
    (moves : ∀ r, l.service.searches.runs[k]? = some r -> r.move sources m = (f r, []))
    (alive : ∀ r i, l.service.searches.runs[k]? = some r -> m = .endProbe i ->
      seatAt r.seats i = .probing -> probeAt sources i ≠ .lost)
    (ready : ∀ i, m = .endProbe i -> l.Ready k i) :
    let last := l.follow k (l.service.searches.change k f)
    last.Kept last.service.searches.runs ∧ Quiet l.service last.service := by
  intro last
  let begun := { l.service.searches with runs := l.service.searches.runs.modify k f }
  cases there : l.service.searches.runs[k]? with
  | none =>
    have same : begun.runs = l.service.searches.runs :=
      List.modify_eq_self (List.getElem?_eq_none_iff.mp there)
    have absent : begun.runs[k]? = none := same ▸ there
    have still : l.service.searches.change k f = (begun, []) := by
      rw [Runs.change, Runs.settleRun, absent]
    have taken : (l.taking begun).Kept begun.runs := same ▸ kept.taking begun
    simp only [last, still]
    exact followed (begun, []) rfl taken rfl k
  | some r =>
    have step := Run.move_step sources r m
    rw [moves r there] at step
    obtain ⟨inside, _⟩ := List.getElem?_eq_some_iff.mp there
    have modified : begun.runs = l.service.searches.runs.set k (f r) := by
      simp only [begun]
      rw [List.modify_eq_set_getElem?, there]
      rfl
    have here : begun.runs[k]? = some (f r) := by
      rw [modified]
      exact List.getElem?_set_self inside
    obtain ⟨runs, notices⟩ := Runs.settleRun_runs begun k (f r) here
    obtain ⟨moved, _⟩ := (kept.taking (begun.settleRun k).1).move there step
      (fun i => alive r i there) fun i same => ready i same r there
    obtain ⟨settled, log⟩ := (modified ▸ moved : Kept _ begun.runs).settles here
    have taken := runs ▸ settled
    exact followed (l := l) (begun.settleRun k) (by rw [← notices]; rfl) taken log k

theorem start_controlled (names : List String) (request : Request) (maxProbes nextLimit : Nat) :
    let start : Run Candidates := Run.start names request maxProbes nextLimit
    (∃ width, start.Controlled width) ∧ start.offset + start.names.length ≤ names.length := by
  intro start
  let sources : List (Source Candidates) := names.map fun name =>
    { name, probe := .lost, fetch := fun _ => .lost }
  have named : sources.map Source.name = names := by simp [sources, Function.comp_def]
  have lawful := Run.start_lawful sources request maxProbes nextLimit
  have offset := (Run.start_given (P := Candidates) names request maxProbes nextLimit).2.1
  have length := lawful.length
  rw [named] at lawful length
  refine ⟨⟨_, lawful.controlled⟩, ?_⟩
  have same : sources.length = names.length := List.length_map ..
  rw [List.length_drop, same] at length
  simp only [start, length, offset]
  omega

theorem enter (kept : l.Kept l.service.searches.runs) (scope : List Nat) (request : Request)
    (known : ∀ i ∈ scope, i < l.service.fleet.checkouts.length) :
    let last : Lending := { l with service := l.service.enterSearch scope request }
    last.Kept last.service.searches.runs := by
  intro last
  have begun := start_controlled (l.service.namesOf scope) request l.service.searches.maxProbes
    l.service.searches.nextLimit
  have waiting := Run.start_seats (P := Candidates) (l.service.namesOf scope) request
    l.service.searches.maxProbes l.service.searches.nextLimit
  have runs : last.service.searches.runs = l.service.searches.runs ++
      [Run.start (l.service.namesOf scope) request l.service.searches.maxProbes
        l.service.searches.nextLimit] := rfl
  have scopes : last.service.scopes = l.service.scopes ++ [scope] := rfl
  rw [runs]
  generalize (Run.start (l.service.namesOf scope) request _ _ : Run Candidates) = start at *
  have length : (l.service.namesOf scope).length = scope.length := List.length_map ..
  have after : ∀ (j : Nat) (other : Run Candidates),
      (l.service.searches.runs ++ [start])[j]? = some other ->
      l.service.searches.runs[j]? = some other ∨
        j = l.service.searches.runs.length ∧ other = start := by
    intro j other here
    rcases Nat.lt_or_ge j l.service.searches.runs.length with before | behind
    · rw [List.getElem?_append_left before] at here
      exact .inl here
    · rw [List.getElem?_append_right behind] at here
      obtain ⟨last, _⟩ := List.getElem?_eq_some_iff.mp here
      rw [List.length_singleton] at last
      exact .inr ⟨by omega, List.mem_singleton.mp (List.mem_of_getElem? here)⟩
  -- the place of a loan is that in the search it is of, which has begun before
  have place : ∀ loan ∈ l.loans,
      last.service.placeOf loan.run loan.place = l.service.placeOf loan.run loan.place := by
    intro loan member
    obtain ⟨_, _, there, _⟩ := kept.lent.owed loan member
    obtain ⟨inside, _⟩ := List.getElem?_eq_some_iff.mp there
    rw [← kept.paired] at inside
    rw [Service.placeOf, Service.placeOf, scopes, List.getElem?_append_left inside]
    rfl
  have lent := kept.lent.extend start waiting
  refine ⟨kept.queueing, kept.shared, ⟨fun loan member => ?_, lent.once, lent.owed, lent.lent⟩, ?_,
    ?_, fun j other range here there => ?_, fun j other here => ?_, fun j other here i => ?_⟩
  · rw [place loan member]
    exact kept.lent.placed loan member
  · simp [scopes, kept.paired]
  · intro other member i inside
    rw [scopes] at member
    rcases List.mem_append.mp member with old | new
    · exact kept.known other old i inside
    · rw [List.mem_singleton.mp new] at inside
      exact known i inside
  · rw [scopes] at there
    rcases after j other here with old | ⟨rfl, rfl⟩
    · obtain ⟨inside, _⟩ := List.getElem?_eq_some_iff.mp old
      rw [List.getElem?_append_left (kept.paired ▸ inside)] at there
      exact kept.ranged j other range old there
    · rw [← kept.paired, List.getElem?_concat_length] at there
      obtain rfl := Option.some.inj there
      exact length ▸ begun.2
  · rcases after j other here with old | ⟨_, rfl⟩
    · exact kept.controlled j other old
    · exact begun.1
  · rcases after j other here with old | ⟨_, rfl⟩
    · exact kept.living j other old i
    · simp [waiting]

end Kept

variable {l next : Lending}

theorem probeAt_endings (s : Service) {k g : Nat} {scope : List Nat}
    (there : s.scopes[k]? = some scope) (inside : g < scope.length) :
    probeAt (s.endings k) g ≠ .lost := by
  have known : (s.endings k)[g]? = some
      { name := (s.checkout (s.placeOf k g)).name
        probe := s.probeEnding { call := .probe, run := k, repo := g }
        fetch := fun _ => s.fetchEnding { call := .fetch, run := k, repo := g } } := by
    simp [Service.endings, there, inside]
  rw [probeAt, known]
  exact s.probeEnding_ne_lost _

theorem Kept.go (kept : l.Kept l.service.searches.runs) {k : Nat} {m : Move}
    (ready : ∀ i, m = .endProbe i -> l.Ready k i) :
    let last := l.follow k (l.service.searches.go l.service.endings k m)
    last.Kept last.service.searches.runs ∧ Quiet l.service last.service := by
  intro last
  cases there : l.service.searches.runs[k]? with
  | none =>
    simp only [last, Runs.go_none _ _ k m there]
    exact Kept.followed (l.service.searches, []) rfl (kept.taking _) rfl k
  | some r =>
    have step := Run.move_step ((l.service.endings k).drop r.offset) r m
    simp only [last, Runs.go_some _ _ k m r there]
    generalize r.move ((l.service.endings k).drop r.offset) m = next at step
    have alive : ∀ i, m = .endProbe i -> seatAt r.seats i = .probing ->
        probeAt ((l.service.endings k).drop r.offset) i ≠ .lost := by
      intro i _ probing
      obtain ⟨begun, _⟩ := List.getElem?_eq_some_iff.mp there
      have begun : k < l.service.scopes.length := kept.paired ▸ begun
      have scope : l.service.scopes[k]? = some l.service.scopes[k] :=
        List.getElem?_eq_getElem begun
      have ranged := kept.ranged k r _ there scope
      have inside := kept.inside there (i := i) (by simp [probing])
      rw [probeAt_drop]
      exact probeAt_endings l.service scope (by omega)
    obtain ⟨moved, log⟩ := (kept.taking (l.service.searches.replace k next.1 next.2).1).move there
      step alive fun i same => ready i same r there
    refine Kept.followed (l := l) (l.service.searches.replace k next.1 next.2) ?_ moved log k
    rw [Runs.replace]
    simp only [step.given.2.2.1]

theorem Kept.begins (kept : l.Kept l.service.searches.runs) (scope : List Nat) (request : Request)
    (known : ∀ i ∈ scope, i < l.service.fleet.checkouts.length) :
    let last := l.beginSearch scope request
    last.Kept last.service.searches.runs ∧ Quiet l.service last.service := by
  intro last
  have entered := kept.enter scope request known
  let begun := l.service.searches.enter (l.service.namesOf scope) request
  have here : begun.runs[l.service.searches.runs.length]? = some (Run.start
      (l.service.namesOf scope) request l.service.searches.maxProbes
      l.service.searches.nextLimit) := List.getElem?_concat_length
  obtain ⟨runs, notices⟩ := Runs.settleRun_runs begun _ _ here
  obtain ⟨settled, log⟩ := (entered.taking (begun.settleRun _).1).settles here
  have taken := runs ▸ settled
  exact Kept.followed (l := { l with
    service := { l.service with scopes := l.service.scopes ++ [scope] } })
    (begun.settleRun _) (by rw [← notices]; rfl) taken log _

theorem Kept.ends (kept : l.Kept l.service.searches.runs) (c : Started)
    (ready : c.call = .probe -> ∀ r, l.service.searches.runs[c.run]? = some r ->
      l.Ready c.run (c.repo - r.offset)) :
    let last := l.endCall c
    last.Kept last.service.searches.runs ∧ Quiet l.service last.service := by
  intro last
  cases there : l.service.searches.runs[c.run]? with
  | none =>
    have absent : ∀ {A : Prop} (r : Run Candidates),
        l.service.searches.runs[c.run]? = some r -> A := fun r here => by simp [there] at here
    simp only [last, endCall]
    split <;> exact kept.change c.run _ [] .advance (fun r here => absent r here)
      (fun r _ here => absent r here) fun _ same => by cases same
  | some r =>
    have own : ∀ other, l.service.searches.runs[c.run]? = some other -> other = r := fun other here =>
      Option.some.inj (here.symm.trans there)
    let i := c.repo - r.offset
    simp only [last, endCall]
    split
    next call =>
      let sources : List (Source Candidates) := List.replicate (i + 1)
        { name := "", probe := l.service.probeEnding c, fetch := fun _ => .lost }
      have brings : probeAt sources i = l.service.probeEnding c := by simp [sources, probeAt]
      refine kept.change c.run _ sources (.endProbe i) (fun other here => ?_) (fun other j _ same _ => ?_)
        fun j same => ?_
      · obtain rfl := own other here
        rw [Run.move, brings]
      · cases same
        rw [brings]
        exact l.service.probeEnding_ne_lost c
      · cases same
        exact ready call r there
    next call =>
      let sources : List (Source Candidates) := List.replicate (i + 1)
        { name := "", probe := .lost, fetch := fun _ => l.service.fetchEnding c }
      have brings : ∀ payload, fetchAt sources i payload = l.service.fetchEnding c := fun payload => by
        simp [sources, fetchAt]
      refine kept.change c.run _ sources (.endFetch i) (fun other here => ?_)
        (fun _ _ _ same _ => by cases same) fun _ same => by cases same
      obtain rfl := own other here
      cases seat : other.seat i <;>
        simp [Run.move, seat, brings, Run.endFetch, Run.isFetching, Seat.isFetching, i] at *

theorem Searches.kept (goes : l.Searches next) (kept : l.Kept l.service.searches.runs) :
    next.Kept next.service.searches.runs ∧ Quiet l.service next.service := by
  cases goes with
  | enter scope request known => exact ⟨kept.enter scope request known, .inl rfl⟩
  | move k m ready => exact kept.go ready
  | beginSearch scope request known => exact kept.begins scope request known
  | endCall c ready => exact kept.ends c ready
  | abort run =>
    have moves : ∀ r, l.service.searches.runs[run]? = some r -> r.move [] .abort = (r.abort, []) :=
      fun _ _ => rfl
    have changed := kept.change run Run.abort [] .abort moves (fun _ _ _ same => by cases same)
      (fun _ same => by cases same)
    exact changed
  | shutdown => exact ⟨kept.taking _, .inl rfl⟩

end Lending

end FleetSearch
