import FleetSearch.Proofs.Search.Deciding
import FleetSearch.Proofs.Search.Scan

set_option autoImplicit false

namespace FleetSearch.Search

variable {P : Type}

def Seat.isOut : Seat P -> Bool
  | .fetching _ => true
  | .fetched _ => true
  | _ => false

theorem mem_insertHarvest (i : Nat) (harvest : Harvest) (harvests : List (Nat × Harvest))
    (entry : Nat × Harvest) :
    entry ∈ Run.insertHarvest i harvest harvests ↔ entry = (i, harvest) ∨ entry ∈ harvests := by
  induction harvests with
  | nil => simp [Run.insertHarvest]
  | cons first rest ih =>
    obtain ⟨j, other⟩ := first
    by_cases before : i < j
    next => simp [Run.insertHarvest, before]
    next =>
      simp only [Run.insertHarvest, if_neg before, List.mem_cons, ih]
      tauto

theorem insertHarvest_ordered (i : Nat) (harvest : Harvest) (harvests : List (Nat × Harvest))
    (ordered : harvests.Pairwise fun a b => a.1 < b.1) (fresh : ∀ entry ∈ harvests, entry.1 ≠ i) :
    (Run.insertHarvest i harvest harvests).Pairwise fun a b => a.1 < b.1 := by
  induction harvests with
  | nil => simp [Run.insertHarvest]
  | cons first rest ih =>
    obtain ⟨j, other⟩ := first
    obtain ⟨least, tail⟩ := List.pairwise_cons.mp ordered
    by_cases before : i < j
    next =>
      rw [Run.insertHarvest, if_pos before]
      refine List.pairwise_cons.mpr ⟨fun entry member => ?_, ordered⟩
      rcases List.mem_cons.mp member with rfl | later
      · exact before
      · exact Nat.lt_trans before (least entry later)
    next =>
      rw [Run.insertHarvest, if_neg before]
      have apart : j ≠ i := fresh (j, other) List.mem_cons_self
      refine List.pairwise_cons.mpr ⟨fun entry member => ?_, ih tail fun entry member =>
        fresh entry (List.mem_cons_of_mem _ member)⟩
      rcases (mem_insertHarvest i harvest rest entry).mp member with rfl | later
      · show j < i
        omega
      · exact least entry later

structure Gathered (sources : List (Source P)) (seats : List (Seat P)) (dispatched hits : List Nat)
    (harvests : List (Nat × Harvest)) (failure : Option Failure) : Prop where
  all : dispatched = hits
  ordered : harvests.Pairwise fun a b => a.1 < b.1
  brought : ∀ entry ∈ harvests, entry.1 ∈ dispatched ∧
    harvestAt sources entry.1 = some entry.2 ∧ (seatAt seats entry.1).isOut = false
  awaited : ∀ i, (seatAt seats i).isOut = true -> i ∈ dispatched
  missing : ∀ i ∈ dispatched, (seatAt seats i).isOut = true ∨ i ∈ harvests.map Prod.fst ∨
    failure.isSome = true ∨ LosesFetch sources i

namespace Gathered

variable {sources : List (Source P)} {seats : List (Seat P)} {dispatched hits : List Nat}
  {harvests : List (Nat × Harvest)} {failure : Option Failure} {i : Nat} {s t : Seat P}

theorem set (old : Gathered sources seats dispatched hits harvests failure)
    (seat : seatAt seats i = t) (same : s.isOut = t.isOut) :
    Gathered sources (seats.set i s) dispatched hits harvests failure := by
  have out : ∀ j, (seatAt (seats.set i s) j).isOut = (seatAt seats j).isOut := fun j => by
    rcases seatAt_set_or seats i s j with stays | ⟨here, put⟩
    · rw [stays]
    · subst here
      rw [put, seat, same]
  exact
    { old with
      brought := fun entry member => by simpa only [out] using old.brought entry member
      awaited := fun j => by simpa only [out] using old.awaited j
      missing := fun j => by simpa only [out] using old.missing j }

theorem home {after : List (Nat × Harvest)} {blame : Option Failure}
    (old : Gathered sources seats dispatched hits harvests failure) (inside : i < seats.length)
    (home : s.isOut = false) (ordered : after.Pairwise fun a b => a.1 < b.1)
    (kept : ∀ entry ∈ harvests, entry ∈ after)
    (fresh : ∀ entry ∈ after, entry ∈ harvests ∨
      entry.1 = i ∧ i ∈ dispatched ∧ harvestAt sources i = some entry.2)
    (later : failure.isSome = true -> blame.isSome = true)
    (reason : i ∈ after.map Prod.fst ∨ blame.isSome = true ∨ LosesFetch sources i) :
    Gathered sources (seats.set i s) dispatched hits after blame := by
  have out : ∀ j, (seatAt (seats.set i s) j).isOut = true -> (seatAt seats j).isOut = true := by
    intro j away
    rw [seatAt_set inside] at away
    split at away
    next => simp [home] at away
    next => exact away
  refine ⟨old.all, ordered, ?_, fun j away => old.awaited j (out j away), ?_⟩
  · intro entry member
    rcases fresh entry member with before | ⟨here, one, brings⟩
    · obtain ⟨one, brings, back⟩ := old.brought entry before
      refine ⟨one, brings, ?_⟩
      by_contra away
      simp [out entry.1 (by simpa using away)] at back
    · subst here
      exact ⟨one, brings, by rw [seatAt_set_self inside, home]⟩
  · intro j one
    by_cases here : i = j
    next =>
      subst here
      exact .inr reason
    next =>
      rw [seatAt_set_ne here]
      rcases old.missing j one with away | there | failed | lost
      · exact .inl away
      · obtain ⟨entry, member, rfl⟩ := List.mem_map.mp there
        exact .inr (.inl (List.mem_map_of_mem (kept entry member)))
      · exact .inr (.inr (.inl (later failed)))
      · exact .inr (.inr (.inr lost))

theorem collect {harvest : Harvest} (old : Gathered sources seats dispatched hits harvests failure)
    (seat : seatAt seats i = .fetched (.ok harvest)) (brings : harvestAt sources i = some harvest) :
    Gathered sources (seats.set i .freed) dispatched hits (Run.insertHarvest i harvest harvests)
      failure := by
  have away : (seatAt seats i).isOut = true := by
    rw [seat]
    rfl
  have fresh : ∀ entry ∈ harvests, entry.1 ≠ i := by
    rintro entry member rfl
    have back := (old.brought entry member).2.2
    simp [away] at back
  have added := mem_insertHarvest i harvest harvests
  refine old.home (lt_length_of_seatAt (by simp [seat])) rfl
    (insertHarvest_ordered i harvest harvests old.ordered fresh)
    (fun entry member => (added entry).mpr (.inr member)) (fun entry member => ?_) id (.inl ?_)
  · rcases (added entry).mp member with rfl | before
    · exact .inr ⟨rfl, old.awaited i away, brings⟩
    · exact .inl before
  · exact List.mem_map_of_mem ((added (i, harvest)).mpr (.inl rfl))

theorem complete {size limit : Nat} {c : Cutoff} {phase : Phase} {all : List (Seat P)}
    (gathered : Gathered sources seats dispatched c.hits harvests failure)
    (decided : Decided sources size limit all c phase)
    (present : ∀ i ∈ dispatched, i ∈ harvests.map Prod.fst) :
    harvests = harvestsTo sources c.firstOpen := by
  have ordered : (harvestsTo sources c.firstOpen).Pairwise fun a b => a.1 < b.1 := by
    refine List.Pairwise.filterMap _ (fun i j before entry here other there => ?_)
      List.pairwise_lt_range
    simp only [Option.map_eq_some_iff] at here there
    obtain ⟨_, _, rfl⟩ := here
    obtain ⟨_, _, rfl⟩ := there
    exact before
  have distinct : ∀ {l : List (Nat × Harvest)}, (l.Pairwise fun a b => a.1 < b.1) -> l.Nodup :=
    fun sorted => sorted.imp fun before same => by
      subst same
      exact Nat.lt_irrefl _ before
  refine List.Perm.eq_of_pairwise (fun a b _ _ before after => ?_) gathered.ordered ordered
    ((List.perm_ext_iff_of_nodup (distinct gathered.ordered) (distinct ordered)).mpr
      fun entry => ?_)
  · exact absurd (Nat.lt_trans before after) (Nat.lt_irrefl _)
  · simp only [harvestsTo, List.mem_filterMap, List.mem_range, Option.map_eq_some_iff]
    constructor
    · intro member
      obtain ⟨one, brings, _⟩ := gathered.brought entry member
      rw [gathered.all, Cutoff.hits, List.mem_filter, List.mem_range] at one
      exact ⟨entry.1, one.1, entry.2, brings, rfl⟩
    · rintro ⟨i, below, harvest, brings, rfl⟩
      obtain ⟨answer, known⟩ := (Cutoff.isAnswered_iff c i).mp (decided.walked.answered below)
      obtain ⟨payload, done⟩ := decided.told i answer known
      cases answer with
      | false => simp [harvestAt_unfound done] at brings
      | true =>
        have one : i ∈ dispatched := by
          rw [gathered.all, Cutoff.hits, List.mem_filter, List.mem_range]
          exact ⟨below, by simp [known]⟩
        obtain ⟨entry, member, rfl⟩ := List.mem_map.mp (present i one)
        obtain ⟨_, same, _⟩ := gathered.brought entry member
        obtain rfl : entry.2 = harvest := by simpa [same] using brings
        exact member

end Gathered

namespace Run.Step

variable {sources : List (Source P)} {width : Nat} {r next : Run P} {m : Move}
  {events : List (Event P)}

theorem gathered (step : Step sources r m events next) (held : r.Controlled width)
    (sound : ∀ i, (seatAt r.seats i).Sound sources i)
    (decided : Decided sources r.names.length r.request.limit r.seats r.cutoff r.phase)
    (old : ∀ dispatched harvests failure, r.phase = .fetching dispatched harvests failure ->
      Gathered sources r.seats dispatched r.cutoff.hits harvests failure)
    (dispatched : List Nat) (harvests : List (Nat × Harvest)) (failure : Option Failure)
    (phase : next.phase = .fetching dispatched harvests failure) :
    Gathered sources next.seats dispatched next.cutoff.hits harvests failure := by
  cases step with
  | idle | take | leave | strayReport | reaped => exact old _ _ _ phase
  | refuse | settle | desert | close | letGo | drained | fail | page | giveIn | abandon | abandonFetches
    | abandonFailure => cases phase
  | release i seat => exact (old _ _ _ phase).set seat rfl
  | spawn launching holding =>
    have seat := (held.launched.waiting r.launched).mpr (Nat.le_refl _)
    exact (old _ _ _ phase).set seat rfl
  | call i seat => exact (old _ _ _ phase).set seat rfl
  | record i rest finding deciding => simp_all [put]
  | dispatch closing gone =>
    cases phase
    refine ⟨chosen_eq_hits decided (Phase.isEarly_closing closing), List.Pairwise.nil, by simp, ?_, ?_⟩
    · intro i away
      have calm := held.admitted i
      rw [closing] at calm
      rw [seatAt_dispatchSeats] at away
      rw [mem_chosen decided (Phase.isEarly_closing closing)]
      split at away <;> cases seat : seatAt r.seats i <;>
        simp_all [Phase.admits, Seat.fetch, Seat.freeHeld, Seat.isOut, Seat.isHeld, Seat.isFetching,
          Seat.isFetched]
    · intro i one
      obtain ⟨below, kept⟩ := (mem_chosen decided (Phase.isEarly_closing closing) i).mp one
      refine .inl ?_
      rw [seatAt_dispatchSeats, if_pos below]
      cases seat : seatAt r.seats i <;> simp_all [Seat.isHeld, Seat.fetch, Seat.isOut]
  | reap m i rest mail calm =>
    obtain ⟨report, seat⟩ := (mail ▸ held.mailed).reported
    exact (old _ _ _ phase).set seat rfl
  | collect before brought blame i rest harvest fetching mail seat =>
    cases phase
    obtain ⟨payload, done, brings⟩ := Seat.sound_at sound seat
    exact (old _ _ _ fetching).collect seat (harvestAt_fetched done brings)
  | spoil before brought blame i rest message fetching mail seat =>
    cases phase
    have gathered := old _ _ _ fetching
    refine gathered.home (lt_length_of_seatAt (by simp [show seatAt r.seats i = _ from seat])) rfl
      gathered.ordered (fun _ member => member) (fun _ member => .inl member) (fun _ => ?_)
      (.inr (.inl ?_))
    · simp
    · simp
  | strayResult before brought blame i rest fetching mail stray =>
    obtain ⟨result, seat⟩ := (mail ▸ held.mailed).fetched
    exact absurd seat (stray result)
  | loseProbe i seat lost => exact (old _ _ _ phase).set seat rfl
  | report i report seat reports listening => exact (old _ _ _ phase).set seat rfl
  | missReport i seat reports deaf => exact (old _ _ _ phase).set seat rfl
  | bring before brought blame i payload result seat brings fetching =>
    exact (old _ _ _ phase).set seat rfl
  | missResult i payload seat deaf =>
    have gathered := old _ _ _ phase
    have truth := Seat.sound_at sound seat
    have lost : LosesFetch sources i := by
      rcases deaf with lost | elsewhere
      · exact ⟨payload, truth, lost⟩
      · rw [show r.phase = _ from phase] at elsewhere
        cases elsewhere
    exact gathered.home (lt_length_of_seatAt (by simp [show seatAt r.seats i = _ from seat])) rfl
      gathered.ordered (fun _ member => member) (fun _ member => .inl member) id (.inr (.inr lost))

end Run.Step

end FleetSearch.Search
