import FleetSearch.Proofs.Search.Page

set_option autoImplicit false

namespace FleetSearch.Search

variable {P : Type}

namespace Event

def isRelease (g : Nat) : Event P -> Bool
  | .release i => i = g
  | _ => false

def isProbe (g : Nat) : Event P -> Bool
  | .probe i => i = g
  | _ => false

end Event

def probes (k g : Nat) (notices : List (Notice P)) : Nat :=
  (eventsOf k notices).countP (Event.isProbe g)

def releases (k g : Nat) (notices : List (Notice P)) : Nat :=
  (eventsOf k notices).countP (Event.isRelease g)

theorem countP_shift (p : Nat -> Event P -> Bool)
    (own : ∀ (g : Nat) (e : Event P), p g e = true -> e.index = g)
    (moved : ∀ (offset i : Nat) (e : Event P), p (offset + i) (e.shift offset) = p i e)
    (offset : Nat) (events : List (Event P)) (g : Nat) :
    (events.map (Event.shift offset)).countP (p g) =
      if offset ≤ g then (about (g - offset) events).countP (p (g - offset)) else 0 := by
  have index : ∀ e : Event P, (e.shift offset).index = offset + e.index := fun e => by
    cases e <;> rfl
  split
  next inside =>
    obtain ⟨i, rfl⟩ := Nat.exists_eq_add_of_le inside
    rw [Nat.add_sub_cancel_left, List.countP_map, about, List.countP_filter]
    apply List.countP_congr
    intro e _
    simp only [Function.comp_apply, moved, Bool.and_eq_true, decide_eq_true_eq]
    exact ⟨fun holds => ⟨holds, own i e holds⟩, fun holds => holds.1⟩
  next before =>
    rw [List.countP_eq_zero]
    intro e member holds
    obtain ⟨first, _, rfl⟩ := List.mem_map.mp member
    have place := own g _ holds
    rw [index] at place
    omega

def Seat.isReleased : Seat P -> Bool
  | .released => true
  | _ => false

namespace Seat.Told

variable {sources : List (Source P)} {i : Nat} {events : List (Event P)} {s : Seat P}

theorem counts (told : s.Told sources i events) :
    events.countP (Event.isRelease i) = (if s.isReleased then 1 else 0) ∧
      events.countP (Event.isProbe i) = (if s.isCalled then 1 else 0) := by
  have visited : ∀ events, Visited sources i events ->
      events.countP (Event.isRelease i) = 0 ∧ events.countP (Event.isProbe i) = 1 := by
    rintro _ (rfl | ⟨payload, _, rfl⟩) <;> simp [Event.isRelease, Event.isProbe]
  cases s with
  | fetched | freed => simpa [isReleased, isCalled] using visited events told
  | released =>
    obtain ⟨visit, went, rfl⟩ := told
    obtain ⟨none, once⟩ := visited visit went
    simp [List.countP_append, none, once, Event.isRelease, Event.isProbe, isReleased, isCalled]
  | _ =>
    cases told
    simp [Event.isRelease, Event.isProbe, isReleased, isCalled]

end Seat.Told

theorem probeAt_drop (sources : List (Source P)) (offset i : Nat) :
    probeAt (sources.drop offset) i = probeAt sources (offset + i) := by
  simp [probeAt]

namespace Runs

variable {sources : List (Source P)} {maxProbes nextLimit : Nat} {events : List (Event P)}
  {r : Run P}

theorem Reached.releases (reached : Reached sources maxProbes nextLimit events r) (g : Nat) :
    events.countP (Event.isRelease g) =
      if r.offset ≤ g ∧ (seatAt r.seats (g - r.offset)).isReleased = true then 1 else 0 := by
  obtain ⟨own, rfl, told⟩ := reached.told
  rw [countP_shift Event.isRelease (fun g e => by cases e <;> simp [Event.isRelease, Event.index])
    (fun offset i e => by cases e <;> simp [Event.isRelease, Event.shift])]
  split
  next inside => simp [(told _).counts.1, inside]
  next before => simp [before]

theorem Reached.probes (reached : Reached sources maxProbes nextLimit events r) (g : Nat) :
    events.countP (Event.isProbe g) =
      if r.offset ≤ g ∧ (seatAt r.seats (g - r.offset)).isCalled = true then 1 else 0 := by
  obtain ⟨own, rfl, told⟩ := reached.told
  rw [countP_shift Event.isProbe (fun g e => by cases e <;> simp [Event.isProbe, Event.index])
    (fun offset i e => by cases e <;> simp [Event.isProbe, Event.shift])]
  split
  next inside =>
    rw [(told _).counts.2]
    simp [inside]
  next before => simp [before]

/-- Run `k` releases its probe of repository `g` at most once and not before it has ended, and has
released it when it comes to rest, unless the probe worker died. -/
theorem released_once (sources : Nat -> List (Source P)) (maxProbes nextLimit : Nat)
    (turns : List Turn) (k : Nat) (r : Run P)
    (there : ((idle maxProbes nextLimit).play sources turns).1.runs[k]? = some r) (g : Nat) :
    let played := (idle maxProbes nextLimit).play sources turns
    releases k g played.2 ≤ 1 ∧
      (probes k g played.2 = 0 ∨
          played.1.executes { call := .probe, run := k, repo := g } = true ->
        releases k g played.2 = 0) ∧
      (r.Rests ->
        (0 < probes k g played.2 -> probeAt (sources k) g ≠ .lost -> releases k g played.2 = 1) ∧
          (probes k g played.2 = 0 ∨ probeAt (sources k) g = .lost ->
            releases k g played.2 = 0)) := by
  intro played
  obtain ⟨_, reached⟩ := Runs.reached sources maxProbes nextLimit turns k r there
  have released : releases k g played.2 = _ := reached.releases g
  have probed : probes k g played.2 = _ := reached.probes g
  have truth := reached.lawful.sound (g - r.offset)
  have executes : played.1.executes { call := .probe, run := k, repo := g } =
      (seatAt r.seats (g - r.offset)).isProbing := by
    simp only [Runs.executes, played, there]
    rfl
  rw [released, probed, executes]
  refine ⟨by split <;> omega, fun early => ?_, fun rests => ?_⟩
  · cases seat : seatAt r.seats (g - r.offset) <;>
      simp_all [Seat.isReleased, Seat.isCalled, Seat.isProbing]
  · by_cases inside : r.offset ≤ g
    next =>
      have place : r.offset + (g - r.offset) = g := by omega
      rw [← place, ← probeAt_drop]
      rcases rests.seat reached.lawful reached.room (g - r.offset) with seat | seat | seat <;>
        simp_all [Seat.Sound, Seat.isReleased, Seat.isCalled]
    next => simp [inside]

-- The worker of the second of three probes dies, the third one is released by the reaper.
def reapedProbes : List (Source Nat) :=
  [{ name := "a", probe := .done { found := true, payload := 1 }, fetch := fun _ => .done {} },
    { name := "b", probe := .lost, fetch := fun _ => .lost },
    { name := "c", probe := .done { found := true, payload := 3 }, fetch := fun _ => .done {} }]

def lateProbes : List Turn :=
  .begin { query := "q", limit := 1 } ::
    List.map (Turn.move 0) (Move.opening 3 ++ [.endProbe 0, .advance, .advance, .launch, .advance,
      .endFetch 0, .advance, .release 0, .advance, .endProbe 1, .endProbe 2, .reap, .release 2,
      .reap])

theorem lateProbes_released :
    ∃ r, ((idle 3 9).play (fun _ => reapedProbes) lateProbes).1.runs[0]? = some r ∧ r.Rests ∧
      releases 0 2 ((idle 3 9).play (fun _ => reapedProbes) lateProbes).2 = 1 ∧
      releases 0 1 ((idle 3 9).play (fun _ => reapedProbes) lateProbes).2 = 0 := by
  have rests : (((idle 3 9).play (fun _ => reapedProbes) lateProbes).1.runs[0]?.any fun r =>
      Decidable.decide r.Rests) = true := by
    decide +kernel
  have probed : 0 < probes 0 2 ((idle 3 9).play (fun _ => reapedProbes) lateProbes).2 := by
    decide +kernel
  obtain ⟨r, there, rests⟩ := (Option.any_eq_true _ _).mp rests
  have rests : r.Rests := of_decide_eq_true rests
  have third := released_once (fun _ => reapedProbes) 3 9 lateProbes 0 r there 2
  have second := released_once (fun _ => reapedProbes) 3 9 lateProbes 0 r there 1
  have lived : probeAt reapedProbes 2 ≠ .lost := by decide
  exact ⟨r, there, rests, (third.2.2 rests).1 probed lived, (second.2.2 rests).2 (.inr rfl)⟩

/-- While run `k` fetches repository `i` of its range, it is with the payload of its own probe, and
that probe stays unreleased whatever happens until the fetch comes to its end. -/
theorem fetch_unreleased (sources : Nat -> List (Source P)) (maxProbes nextLimit : Nat)
    (before later : List Turn) (k : Nat) (r : Run P) (i : Nat) (payload : P)
    (there : ((idle maxProbes nextLimit).play sources before).1.runs[k]? = some r)
    (fetching : r.seat i = .fetching payload)
    (goesOn : .move k (.endFetch i) ∉ later) :
    let played := (idle maxProbes nextLimit).play sources (before ++ later)
    probeAt (sources k) (r.offset + i) = .done { found := true, payload } ∧
      (∃ last, played.1.runs[k]? = some last ∧ last.seat i = .fetching payload) ∧
      releases k (r.offset + i) played.2 = 0 := by
  intro played
  obtain ⟨_, reached⟩ := Runs.reached sources maxProbes nextLimit before k r there
  have truth := Seat.sound_at reached.lawful.sound fetching
  rw [Seat.Sound, probeAt_drop] at truth
  have parts : played.1.runs[k]? =
      some (r.play ((sources k).drop r.offset) (movesOf k later)).1 :=
    play_later sources _ before later k r there
  have other : .endFetch i ∉ movesOf k later := by
    intro member
    obtain ⟨t, inside, own⟩ := List.mem_filterMap.mp member
    obtain rfl : t = .move k (.endFetch i) := by
      cases t <;> simp_all [Turn.moveOf]
    exact goesOn inside
  have still := Run.play_fetching r reached.lawful i payload fetching _ other
  obtain ⟨_, last⟩ := Runs.reached sources maxProbes nextLimit _ k _ parts
  have offset := (Run.play_given ((sources k).drop r.offset) r (movesOf k later)).2.1
  refine ⟨truth, ⟨_, parts, still⟩, ?_⟩
  have released : releases k (r.offset + i) played.2 = _ := last.releases (r.offset + i)
  rw [released, offset, Nat.add_sub_cancel_left, still]
  simp [Seat.isReleased]

-- Both matches are fetched; one fetch fails and the request is given up while the other goes on.
def bothFound : List (Source Nat) :=
  [{ name := "a", probe := .done { found := true, payload := 1 }, fetch := fun _ => .failed ["x"] },
    { name := "b", probe := .done { found := true, payload := 2 }, fetch := fun _ => .done {} }]

def bothFetched : List Turn :=
  .begin { query := "q", limit := 2 } ::
    List.map (Turn.move 0) (Move.opening 2 ++ [.endProbe 1, .endProbe 0, .advance, .advance,
      .advance, .launch, .advance])

def givenUp : List Turn :=
  [.endFetch 0, .advance, .release 0, .abort, .reap, .release 1].map (Turn.move 0)

theorem givenUp_unreleased :
    ∃ r payload, ((idle 2 9).play (fun _ => bothFound) bothFetched).1.runs[0]? = some r ∧
      r.seat 1 = .fetching payload ∧
      releases 0 (r.offset + 1) ((idle 2 9).play (fun _ => bothFound)
        (bothFetched ++ givenUp)).2 = 0 := by
  have away : (((idle 2 9).play (fun _ => bothFound) bothFetched).1.runs[0]?.any fun r =>
      r.isFetching 1) = true := by
    decide +kernel
  obtain ⟨r, there, away⟩ := (Option.any_eq_true _ _).mp away
  obtain ⟨payload, seat⟩ : ∃ payload, r.seat 1 = .fetching payload := by
    unfold Run.isFetching at away
    cases seat : r.seat 1 <;> simp_all [Seat.isFetching]
  have goesOn : Turn.move 0 (.endFetch 1) ∉ givenUp := by decide
  exact ⟨r, payload, there, seat, (fetch_unreleased (fun _ => bothFound) 2 9 bothFetched givenUp 0
    r 1 payload there seat goesOn).2.2⟩

end Runs

end FleetSearch.Search
