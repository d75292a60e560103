import FleetSearch.Search.Permits
import Mathlib.Data.List.Basic

set_option autoImplicit false

namespace FleetSearch.Search.Permits

inductive Act where
  | acquire
  | release (id : Nat)
  -- the permit is forgotten, which gives it back
  | drop (id : Nat)
  | cancel (id : Nat)
  | close
deriving DecidableEq

def act (p : Permits) : Act -> Permits
  | .acquire => p.acquire
  | .release id => p.release id
  | .drop id => p.release id
  | .cancel id => p.cancel id
  | .close => p.close

def held (p : Permits) : Nat :=
  p.acquirers.count .held

variable {p q : Permits} {id : Nat} {s t : Acquirer}

theorem stateOf_mark (there : p.stateOf id = some t) (s : Acquirer) (j : Nat) :
    (p.mark id s).stateOf j = if id = j then some s else p.stateOf j := by
  have inside := (List.getElem?_eq_some_iff.mp there).1
  simp [stateOf, mark, List.getElem?_set, inside]

theorem held_mark (there : p.stateOf id = some t) (s : Acquirer) :
    (p.mark id s).held + (if t = .held then 1 else 0) =
      p.held + (if s = .held then 1 else 0) := by
  obtain ⟨inside, same⟩ := List.getElem?_eq_some_iff.mp there
  have counted : t = .held -> 0 < p.acquirers.count .held := fun holds =>
    List.count_pos_iff.mpr (List.mem_of_getElem? (holds ▸ there))
  simp only [held, mark, List.count_set inside, same, beq_iff_eq]
  by_cases holds : t = .held
  next =>
    have some := counted holds
    simp only [if_pos holds]
    omega
  next => simp [holds]

theorem stateOf_concat (acquirers : List Acquirer) (s : Acquirer) (j : Nat) :
    (acquirers ++ [s])[j]? = if j = acquirers.length then some s else acquirers[j]? := by
  rw [List.getElem?_append]
  rcases Nat.lt_trichotomy j acquirers.length with before | same | behind
  · rw [if_pos before, if_neg (Nat.ne_of_lt before)]
  · simp [same]
  · rw [if_neg (by omega), if_neg (by omega), List.getElem?_eq_none (by simp; omega),
      List.getElem?_eq_none (Nat.le_of_lt behind)]

theorem release_alone (holds : p.stateOf id = some .held) (alone : p.queue = []) :
    p.release id = { p.mark id .released with available := p.available + 1 } := by
  rw [release, if_pos holds]
  simp only [mark, alone]

theorem release_next {next : Nat} {rest : List Nat} (holds : p.stateOf id = some .held)
    (queue : p.queue = next :: rest) :
    p.release id = { p.mark id .released with queue := rest }.mark next .held := by
  rw [release, if_pos holds]
  simp only [mark, queue]

structure Fair (width : Nat) (p : Permits) : Prop where
  balance : p.available + p.held = width
  -- the queue is in the order of arrival, and those who wait are in it
  ordered : p.queue.Pairwise (· < ·)
  waits : ∀ id, id ∈ p.queue ↔ p.stateOf id = some .waiting
  spent : p.queue ≠ [] -> p.available = 0
  shut : p.closed = true -> p.queue = []
  -- whoever waits has been passed by nobody
  first : ∀ i j, i < j -> p.stateOf i = some .waiting ->
    p.stateOf j ≠ some .held ∧ p.stateOf j ≠ some .released

namespace Fair

variable {width : Nat}

theorem mark (fair : p.Fair width) (there : p.stateOf id = some t) (settled : t ≠ .waiting)
    (other : s ≠ .waiting) (none : s ≠ .held) (given : s = .released -> t = .held) :
    (p.mark id s).Fair (width - if t = .held then 1 else 0) := by
  have state := stateOf_mark there s
  have counted := held_mark there s
  rw [if_neg none] at counted
  have balance := fair.balance
  refine ⟨?_, fair.ordered, fun j => ?_, fair.spent, fair.shut, fun i j before waits => ?_⟩
  · show p.available + _ = _
    omega
  · refine (fair.waits j).trans ?_
    rw [state]
    split
    next same =>
      subst same
      simp [there, settled, other]
    next => rfl
  · rw [state] at waits ⊢
    split at waits
    next => simp [other] at waits
    next =>
      have passed := fair.first i j before waits
      split
      next same =>
        subst same
        refine ⟨by simpa using none, fun released => ?_⟩
        have holds := given (by simpa using released)
        exact passed.1 (holds ▸ there)
      next => exact passed

theorem handOn (fair : p.Fair width) :
    (match p.queue with
      | [] => { p with available := p.available + 1 }
      | next :: rest => { p with queue := rest }.mark next .held).Fair (width + 1) := by
  have balance := fair.balance
  split
  next empty =>
    refine ⟨?_, fair.ordered, fair.waits, fun some => absurd empty some, fair.shut, fair.first⟩
    show p.available + 1 + p.held = _
    omega
  next next rest queue =>
    have ordered := fair.ordered
    rw [queue, List.pairwise_cons] at ordered
    have there : { p with queue := rest }.stateOf next = some .waiting :=
      (fair.waits next).mp (queue ▸ List.mem_cons_self)
    have state := stateOf_mark there .held
    have counted := held_mark there .held
    have spent : p.available = 0 := fair.spent (by simp [queue])
    have waiting : ∀ j, j ∈ rest ↔ next ≠ j ∧ p.stateOf j = some .waiting := fun j => by
      rw [← fair.waits, queue, List.mem_cons]
      refine ⟨fun member => ⟨Nat.ne_of_lt (ordered.1 j member), .inr member⟩, ?_⟩
      rintro ⟨other, rfl | member⟩
      · exact absurd rfl other
      · exact member
    refine ⟨?_, ordered.2, fun j => ?_, fun _ => spent, fun closed => ?_, fun i j before waits => ?_⟩
    · rw [if_neg nofun, if_pos rfl] at counted
      have counted : (Permits.mark { p with queue := rest } next .held).held + 0 = p.held + 1 :=
        counted
      show p.available + _ = _
      omega
    · refine (waiting j).trans ?_
      rw [state]
      split
      next same => simp [same]
      next other => exact ⟨And.right, fun waits => ⟨other, waits⟩⟩
    · have none := fair.shut closed
      rw [queue] at none
      cases none
    · rw [state] at waits ⊢
      split at waits
      next => cases waits
      next other =>
        -- whoever still waits came after the one that has the permit now
        have later := ordered.1 i ((waiting i).mpr ⟨other, waits⟩)
        rw [if_neg (by omega)]
        exact fair.first i j before waits

theorem arrive (fair : p.Fair width) {available : Nat} {queue : List Nat}
    (balance : available + p.held + (if s = .held then 1 else 0) = width)
    (asks : queue = if s = .waiting then p.queue ++ [p.acquirers.length] else p.queue)
    (spent : queue ≠ [] -> available = 0) (shut : p.closed = true -> queue = [])
    (alone : s = .held ∨ s = .released -> p.queue = []) :
    ({ p with available, queue, acquirers := p.acquirers ++ [s] } : Permits).Fair width := by
  have fresh : p.stateOf p.acquirers.length = none := List.getElem?_eq_none (Nat.le_refl _)
  have inside : ∀ {i : Nat}, p.stateOf i = some .waiting -> i < p.acquirers.length := fun there =>
    (List.getElem?_eq_some_iff.mp there).1
  have state : ∀ j, (p.acquirers ++ [s])[j]? =
      if j = p.acquirers.length then some s else p.stateOf j := stateOf_concat p.acquirers s
  subst asks
  refine ⟨?_, ?_, fun j => ?_, spent, shut, fun i j before waits => ?_⟩
  · simp only [held, List.count_append, List.count_singleton, beq_iff_eq] at balance ⊢
    omega
  · split
    next =>
      rw [List.pairwise_append]
      refine ⟨fair.ordered, List.pairwise_singleton _ _, fun i member j last => ?_⟩
      rw [List.mem_singleton.mp last]
      exact inside ((fair.waits i).mp member)
    next => exact fair.ordered
  · show _ ↔ (p.acquirers ++ [s])[j]? = _
    rw [state]
    by_cases same : j = p.acquirers.length
    next =>
      subst same
      have out : p.acquirers.length ∉ p.queue := fun member => by
        have there := (fair.waits _).mp member
        rw [fresh] at there
        cases there
      rw [if_pos rfl]
      split <;> simp_all
    next =>
      rw [if_neg same, ← fair.waits]
      split <;> simp [same]
  · have waits : (p.acquirers ++ [s])[i]? = some .waiting := waits
    show (p.acquirers ++ [s])[j]? ≠ _ ∧ (p.acquirers ++ [s])[j]? ≠ _
    rw [state] at waits ⊢
    split at waits
    next last =>
      rw [if_neg (by omega), stateOf, List.getElem?_eq_none (by omega)]
      exact ⟨nofun, nofun⟩
    next =>
      split
      next =>
        have some : p.queue ≠ [] := List.ne_nil_of_mem ((fair.waits i).mpr waits)
        exact ⟨fun holds => some (alone (.inl (Option.some.inj holds))),
          fun gone => some (alone (.inr (Option.some.inj gone)))⟩
      next => exact fair.first i j before waits

theorem acquire (fair : p.Fair width) : p.acquire.Fair width := by
  have balance := fair.balance
  unfold Permits.acquire
  split
  next closed => exact fair.arrive (by simpa using balance) rfl fair.spent fair.shut (by simp)
  next unclosed =>
    split
    next none =>
      exact fair.arrive (by simpa using balance) rfl (fun _ => none) (by simp [unclosed]) (by simp)
    next some =>
      have nobody : p.queue = [] := by
        by_contra waits
        exact some (fair.spent waits)
      refine fair.arrive ?_ rfl (by simp [nobody]) (by simp [nobody]) fun _ => nobody
      rw [if_pos rfl]
      omega

theorem release (fair : p.Fair width) (id : Nat) : (p.release id).Fair width := by
  unfold Permits.release
  split
  next holds =>
    have some : 0 < p.held := List.count_pos_iff.mpr (List.mem_of_getElem? holds)
    have balance := fair.balance
    have back := (fair.mark holds nofun (s := .released) nofun nofun fun _ => rfl).handOn
    rwa [if_pos rfl, Nat.sub_add_cancel (by omega)] at back
  next => exact fair

theorem cancel (fair : p.Fair width) (id : Nat) : (p.cancel id).Fair width := by
  unfold Permits.cancel
  split
  next waits =>
    have there : { p with queue := p.queue.filter (· != id) }.stateOf id = some .waiting := waits
    have state := stateOf_mark there .cancelled
    have counted := held_mark there .cancelled
    simp only [reduceCtorEq, if_false] at counted
    have fewer : p.queue.filter (· != id) ≠ [] -> p.queue ≠ [] := fun some none => by
      simp [none] at some
    refine ⟨?_, fair.ordered.filter _, fun j => ?_, fun some => fair.spent (fewer some),
      fun closed => ?_, fun i j before waiting => ?_⟩
    · exact (congrArg (p.available + ·) counted).trans fair.balance
    · rw [state]
      refine List.mem_filter.trans ?_
      rw [fair.waits]
      split
      next same => simp [same]
      next other =>
        show _ ∧ (j != id) = true ↔ p.stateOf j = some .waiting
        simp [Ne.symm other]
    · show p.queue.filter _ = []
      rw [fair.shut closed]
      rfl
    · rw [state] at waiting ⊢
      split at waiting
      next => cases waiting
      next =>
        split
        next => exact ⟨nofun, nofun⟩
        next => exact fair.first i j before waiting
  next => exact fair

theorem stateOf_close (p : Permits) (id : Nat) :
    p.close.stateOf id =
      if p.stateOf id = some .waiting then some .refused else p.stateOf id := by
  have mapped : p.close.stateOf id =
      (p.stateOf id).map fun a => if a = .waiting then .refused else a := List.getElem?_map
  rw [mapped]
  rcases p.stateOf id with _ | s
  · rfl
  · cases s <;> rfl

theorem close (fair : p.Fair width) : p.close.Fair width := by
  have state := stateOf_close p
  have counted : p.close.held = p.held := by
    simp only [held, Permits.close, List.count_eq_countP, List.countP_map]
    congr 1
    funext s
    cases s <;> rfl
  have none : ∀ id, p.close.stateOf id ≠ some .waiting := fun id => by
    rw [state]
    split
    next => nofun
    next idle => exact idle
  refine ⟨?_, List.Pairwise.nil, fun id => ⟨nofun, fun waits => absurd waits (none id)⟩,
    fun some => absurd rfl some, fun _ => rfl, fun i j _ waits => absurd waits (none i)⟩
  rw [counted]
  exact fair.balance

theorem act (fair : p.Fair width) (a : Act) : (p.act a).Fair width := by
  cases a with
  | acquire => exact fair.acquire
  | release id => exact fair.release id
  | drop id => exact fair.release id
  | cancel id => exact fair.cancel id
  | close => exact fair.close

theorem stateOf_release (fair : p.Fair width) (holds : p.stateOf id = some .held) (j : Nat) :
    (p.release id).stateOf j =
      if id = j then some .released
      else if p.queue.head? = some j then some .held else p.stateOf j := by
  have gone := stateOf_mark holds .released
  rcases queue : p.queue with _ | ⟨next, rest⟩
  next =>
    rw [release_alone holds queue]
    exact (gone j).trans (by simp)
  next =>
    have waits : p.stateOf next = some .waiting := (fair.waits next).mp (queue ▸ List.mem_cons_self)
    have other : id ≠ next := fun same => by simp [← same, holds] at waits
    have there : { p.mark id .released with queue := rest }.stateOf next = some .waiting :=
      (gone next).trans ((if_neg other).trans waits)
    have back : { p.mark id .released with queue := rest }.stateOf j = _ := gone j
    rw [release_next holds queue, stateOf_mark there, back, List.head?_cons]
    simp only [Option.some.injEq]
    by_cases same : next = j
    next => rw [if_pos same, if_pos same, if_neg (same ▸ other)]
    next => rw [if_neg same, if_neg same]

end Fair

def Next (p : Permits) (id : Nat) : Prop :=
  p.stateOf id = some .waiting ∧ ∀ j, j < id -> p.stateOf j ≠ some .waiting

theorem Fair.head {width : Nat} (fair : p.Fair width) (next : p.Next id) :
    p.queue.head? = some id := by
  have member := (fair.waits id).mpr next.1
  rcases queue : p.queue with _ | ⟨head, rest⟩
  next => simp [queue] at member
  next =>
    have ordered := fair.ordered
    rw [queue, List.pairwise_cons] at ordered
    rw [queue] at member
    rcases List.mem_cons.mp member with same | behind
    · rw [same, List.head?_cons]
    · refine absurd ((fair.waits head).mp ?_) (next.2 head (ordered.1 id behind))
      rw [queue]
      exact List.mem_cons_self

theorem stateOf_cancel (waits : p.stateOf id = some .waiting) (j : Nat) :
    (p.cancel id).stateOf j = if id = j then some .cancelled else p.stateOf j := by
  have there : { p with queue := p.queue.filter (· != id) }.stateOf id = some .waiting := waits
  rw [cancel, if_pos waits]
  exact stateOf_mark there .cancelled j

theorem acquirers_acquire (p : Permits) : ∃ s, p.acquire.acquirers = p.acquirers ++ [s] ∧
    (p.closed = true -> s = .refused) := by
  unfold acquire
  split
  next => exact ⟨_, rfl, fun _ => rfl⟩
  next unclosed => split <;> exact ⟨_, rfl, fun closed => absurd closed unclosed⟩

theorem stateOf_acquire (there : p.stateOf id = some s) : p.acquire.stateOf id = some s := by
  obtain ⟨last, acquirers, -⟩ := acquirers_acquire p
  rw [stateOf, acquirers, List.getElem?_append_left (List.getElem?_eq_some_iff.mp there).1]
  exact there

@[simp] theorem closed_acquire (p : Permits) : p.acquire.closed = p.closed := by
  unfold acquire
  split
  next => rfl
  next => split <;> rfl

@[simp] theorem closed_release (p : Permits) (id : Nat) : (p.release id).closed = p.closed := by
  by_cases holds : p.stateOf id = some .held
  next =>
    rcases queue : p.queue with _ | ⟨next, rest⟩
    · rw [release_alone holds queue]
      rfl
    · rw [release_next holds queue]
      rfl
  next => rw [release, if_neg holds]

@[simp] theorem closed_cancel (p : Permits) (id : Nat) : (p.cancel id).closed = p.closed := by
  unfold cancel
  split <;> rfl

theorem mark_same (there : p.stateOf id = some s) : p.mark id s = p := by
  obtain ⟨inside, same⟩ := List.getElem?_eq_some_iff.mp there
  subst same
  simp only [mark, List.set_getElem_self]

end FleetSearch.Search.Permits
