import FleetSearch.Proofs.Search.Settling
import FleetSearch.Proofs.Search.Turns

set_option autoImplicit false

/-!
What the task of a run receives: reports until the page is decided or cannot be any more, then the
results of its fetches. Whatever else waits in a mailbox is dropped unread.
-/

namespace FleetSearch.Search

variable {P : Type}

inductive Message (P : Type) where
  | report (index : Nat) (report : Except String (Finding P))
  | result (index : Nat) (result : Except String Harvest)

def Message.isReportOf (i : Nat) : Message P -> Bool
  | .report j _ => i == j
  | .result _ _ => false

/-- A message that the task of a run received, and the cutoff when it did. -/
structure Receipt (P : Type) where
  cutoff : Cutoff
  message : Message P

def Receipt.isError (receipt : Receipt P) : Bool :=
  match receipt.message with
  | .report _ (.error _) => true
  | .result _ (.error _) => true
  | _ => false

namespace Run

-- What the task of a run receives when it makes a move: a report while the page is undecided, a
-- result while it is fetched.
def receives (r : Run P) (m : Move) : List (Receipt P) :=
  match m, r.phase, r.reports, r.results with
  | .advance, .deciding, i :: _, _ =>
    match r.seat i with
    | .reported report => [{ cutoff := r.cutoff, message := .report i report }]
    | _ => []
  | .advance, .fetching _ _ _, _, i :: _ =>
    match r.seat i with
    | .fetched result => [{ cutoff := r.cutoff, message := .result i result }]
    | _ => []
  | _, _, _, _ => []

def receipts (sources : List (Source P)) (r : Run P) : List Move -> List (Receipt P)
  | [] => []
  | m :: rest => r.receives m ++ (r.move sources m).1.receipts sources rest

def tally {A : Type} (sources : List (Source P)) (of : Run P -> Move -> List A) (r : Run P) :
    List Move -> List A
  | [] => []
  | m :: rest => of r m ++ (r.move sources m).1.tally sources of rest

theorem receipts_eq_tally (sources : List (Source P)) (r : Run P) (moves : List Move) :
    r.receipts sources moves = r.tally sources receives moves := by
  induction moves generalizing r with
  | nil => rfl
  | cons m rest ih => rw [receipts, ih, tally]

theorem receives_report {r : Run P} {i : Nat} {rest : List Nat}
    {report : Except String (Finding P)} (phase : r.phase = .deciding)
    (mail : r.reports = i :: rest) (seat : r.seat i = .reported report) :
    r.receives .advance = [{ cutoff := r.cutoff, message := .report i report }] := by
  simp [receives, phase, mail, seat]

theorem receives_result {r : Run P} {i : Nat} {rest : List Nat} {dispatched : List Nat}
    {harvests : List (Nat × Harvest)} {failure : Option Failure} {result : Except String Harvest}
    (phase : r.phase = .fetching dispatched harvests failure) (mail : r.results = i :: rest)
    (seat : r.seat i = .fetched result) :
    r.receives .advance = [{ cutoff := r.cutoff, message := .result i result }] := by
  simp [receives, phase, mail, seat]

theorem receives_other {r : Run P} {m : Move} (other : m ≠ .advance) : r.receives m = [] := by
  cases m <;> simp_all [receives]

theorem receives_deaf {r : Run P} {m : Move}
    (deaf : (r.phase ≠ .deciding ∧ isFetchPhase r.phase = false) ∨
      (r.phase = .deciding ∧ r.reports = []) ∨ (isFetchPhase r.phase = true ∧ r.results = [])) :
    r.receives m = [] := by
  unfold receives
  split
  next => simp_all [isFetchPhase]
  next => simp_all [isFetchPhase]
  next => rfl

theorem receives_of_stay {sources : List (Source P)} {r : Run P} {m : Move}
    (stays : (r.move sources m).1 = r) : r.receives m = [] := by
  have shorter : ∀ (i : Nat) (rest : List Nat), rest ≠ i :: rest := fun i rest same => by
    simpa using congrArg List.length same
  unfold receives
  split
  next i rest phase mail =>
    have taken : (r.move sources .advance).1.reports = rest := by
      rw [move, advance?, phase]
      simp [quiet, receive?, mail, receive_reports]
    rw [stays, mail] at taken
    exact absurd taken.symm (shorter i rest)
  next dispatched harvests failure i rest phase mail =>
    have taken : (r.move sources .advance).1.results = rest := by
      rw [move, advance?, phase]
      simp only [quiet, collect?, mail]
      split <;> simp [put]
    rw [stays, mail] at taken
    exact absurd taken.symm (shorter i rest)
  next => rfl

end Run

namespace Runs

def receipts (sources : Nat -> List (Source P)) (k : Nat) (s : Runs P) :
    List Turn -> List (Receipt P)
  | [] => []
  | t :: rest =>
    (match s.runs[k]?, t.moveOf k with
      | some r, some m => r.receives m
      | _, _ => []) ++ (s.turn sources t).1.receipts sources k rest

def tally {A : Type} (sources : Nat -> List (Source P))
    (of : List (Source P) -> Run P -> Move -> List A) (k : Nat) (s : Runs P) : List Turn -> List A
  | [] => []
  | t :: rest =>
    (match s.runs[k]?, t.moveOf k with
      | some r, some m => of ((sources k).drop r.offset) r m
      | _, _ => []) ++ (s.turn sources t).1.tally sources of k rest

theorem receipts_eq_tally (sources : Nat -> List (Source P)) (k : Nat) (s : Runs P)
    (turns : List Turn) :
    s.receipts sources k turns = s.tally sources (fun _ => Run.receives) k turns := by
  induction turns generalizing s with
  | nil => rfl
  | cons t rest ih => rw [receipts, ih, tally]

theorem tally_append {A : Type} (sources : Nat -> List (Source P))
    (of : List (Source P) -> Run P -> Move -> List A) (k : Nat) (s : Runs P)
    (turns more : List Turn) :
    s.tally sources of k (turns ++ more) =
      s.tally sources of k turns ++ (s.play sources turns).1.tally sources of k more := by
  induction turns generalizing s with
  | nil => rfl
  | cons t rest ih => simp [tally, play, ih]

theorem turn_length (sources : Nat -> List (Source P)) (s : Runs P) (t : Turn) :
    (s.turn sources t).1.runs.length = s.runs.length + (t.request?.elim 0 fun _ => 1) := by
  cases t with
  | begin request => simp [turn, enter, Turn.request?]
  | shutdown => rfl
  | move k m =>
    rw [turn]
    cases there : s.runs[k]? with
    | none =>
      rw [go_none sources s k m there]
      rfl
    | some r =>
      rw [go_some sources s k m r there, replace_runs, List.length_set]
      rfl

theorem length_le_play (sources : Nat -> List (Source P)) (s : Runs P) (turns : List Turn) :
    s.runs.length ≤ (s.play sources turns).1.runs.length := by
  induction turns generalizing s with
  | nil => exact Nat.le_refl _
  | cons t rest ih =>
    have longer := turn_length sources s t
    have later := ih (s.turn sources t).1
    simp only [play]
    omega

theorem begins (sources : Nat -> List (Source P)) (s : Runs P) (turns : List Turn) (k : Nat)
    (later : s.runs.length ≤ k) (there : k < (s.play sources turns).1.runs.length) :
    ∃ before request after, turns = before ++ .begin request :: after ∧
      (s.play sources before).1.runs.length = k := by
  induction turns generalizing s with
  | nil =>
    simp only [play] at there
    omega
  | cons t rest ih =>
    by_cases waits : (s.turn sources t).1.runs.length ≤ k
    next =>
      obtain ⟨before, request, after, rfl, place⟩ := ih _ waits there
      exact ⟨t :: before, request, after, rfl, place⟩
    next =>
      have longer := turn_length sources s t
      cases t with
      | begin request =>
        simp only [Turn.request?, Option.elim_some] at longer
        refine ⟨[], request, rest, rfl, ?_⟩
        simp only [play]
        omega
      | move | shutdown =>
        simp only [Turn.request?, Option.elim_none] at longer
        omega

theorem tally_before {A : Type} (sources : Nat -> List (Source P))
    (of : List (Source P) -> Run P -> Move -> List A) (k : Nat) (s : Runs P) (turns : List Turn)
    (later : (s.play sources turns).1.runs.length ≤ k) : s.tally sources of k turns = [] := by
  induction turns generalizing s with
  | nil => rfl
  | cons t rest ih =>
    have absent : s.runs[k]? = none := by
      have longer := length_le_play sources s (t :: rest)
      exact List.getElem?_eq_none (by omega)
    simp [tally, absent, ih _ later]

theorem tally_run {A : Type} (sources : Nat -> List (Source P))
    (of : List (Source P) -> Run P -> Move -> List A) (s : Runs P) (turns : List Turn) (k : Nat)
    (r : Run P) (there : s.runs[k]? = some r) :
    s.tally sources of k turns = r.tally ((sources k).drop r.offset)
      (of ((sources k).drop r.offset)) (movesOf k turns) := by
  induction turns generalizing s r with
  | nil => rfl
  | cons t rest ih =>
    cases own : t.moveOf k with
    | none =>
      obtain ⟨still, _⟩ := turn_other sources s t k r there own
      simp [tally, there, own, movesOf, ih _ r still]
    | some m =>
      obtain rfl : t = .move k m := by
        cases t <;> simp_all [Turn.moveOf]
      have offset := (Run.move_step ((sources k).drop r.offset) r m).given.2.2.1
      obtain ⟨inside, _⟩ := List.getElem?_eq_some_iff.mp there
      have now : (s.turn sources (.move k m)).1.runs[k]? =
          some (r.move ((sources k).drop r.offset) m).1 := by
        rw [turn, go_some sources s k m r there, replace_runs, List.getElem?_set_self inside]
      have later := ih _ _ now
      rw [offset] at later
      simp [tally, there, own, movesOf, Run.tally, later]

theorem tally_begun (sources : Nat -> List (Source P)) (maxProbes nextLimit : Nat)
    (turns : List Turn) (k : Nat) (r : Run P)
    (there : ((idle maxProbes nextLimit).play sources turns).1.runs[k]? = some r) :
    ∃ request moves,
      let start : Run P :=
        Run.start ((sources k).map Source.name) request (max maxProbes 1) nextLimit
      let range := (sources k).drop r.offset
      start.Lawful range (min range.length (max maxProbes 1)) ∧
        r = (start.play range moves).1 ∧
        ∀ (A : Type) (of : List (Source P) -> Run P -> Move -> List A),
          (idle maxProbes nextLimit).tally sources of k turns =
            start.tally range (of range) moves := by
  obtain ⟨inside, _⟩ := List.getElem?_eq_some_iff.mp there
  obtain ⟨before, request, after, rfl, place⟩ :=
    begins sources (idle maxProbes nextLimit) turns k (Nat.zero_le _) inside
  obtain ⟨probes, proposes⟩ : ((idle maxProbes nextLimit).play sources before).1.maxProbes =
      max maxProbes 1 ∧ ((idle maxProbes nextLimit).play sources before).1.nextLimit = nextLimit :=
    play_limits sources _ before
  have begun : ((((idle maxProbes nextLimit).play sources before).1.turn sources
      (.begin request)).1.runs)[k]? =
        some (Run.start ((sources k).map Source.name) request (max maxProbes 1) nextLimit) := by
    simp [turn, enter, ← place, probes, proposes]
  rw [play_append, play, (play_run sources _ after k _ begun).1] at there
  obtain rfl := Option.some.inj there
  have lawful := Run.start_lawful (sources k) request (max maxProbes 1) nextLimit
  have offset := (Run.start_given (P := P) ((sources k).map Source.name) request (max maxProbes 1)
    nextLimit).2.1
  rw [List.length_map] at offset
  rw [← offset] at lawful
  refine ⟨request, movesOf k after, ?_, ?_, fun A of => ?_⟩
  · rwa [(Run.play_given _ _ _).2.1]
  · rw [(Run.play_given _ _ _).2.1]
  · have told := tally_run sources of _ after k _ begun
    rw [(Run.play_given _ _ _).2.1, tally_append,
      tally_before sources of k _ before (Nat.le_of_eq place), List.nil_append, tally, told]
    simp [Turn.moveOf]

theorem receipts_begun (sources : Nat -> List (Source P)) (maxProbes nextLimit : Nat)
    (turns : List Turn) (k : Nat) (r : Run P)
    (there : ((idle maxProbes nextLimit).play sources turns).1.runs[k]? = some r) :
    ∃ request moves,
      let start : Run P :=
        Run.start ((sources k).map Source.name) request (max maxProbes 1) nextLimit
      let range := (sources k).drop r.offset
      start.Lawful range (min range.length (max maxProbes 1)) ∧
        r = (start.play range moves).1 ∧
        (idle maxProbes nextLimit).receipts sources k turns = start.receipts range moves := by
  obtain ⟨request, moves, lawful, same, told⟩ :=
    tally_begun sources maxProbes nextLimit turns k r there
  refine ⟨request, moves, lawful, same, ?_⟩
  rw [receipts_eq_tally, told, Run.receipts_eq_tally]

end Runs

end FleetSearch.Search
