import FleetSearch.Json.Record

set_option autoImplicit false

namespace FleetSearch.Json

def Makes {A : Type} (read : Reader A) (P : A -> Prop) : Prop :=
  ∀ s a t, read s = .ok (a, t) -> P a

section

variable {A B : Type} {P : A -> Prop} {Q : B -> Prop} {read : Reader A} {more : A -> Reader B}

theorem Makes.bind (one : Makes read P) (other : ∀ a, P a -> Makes (more a) Q) :
    Makes (read >>= more) Q := by
  intro s b t made
  change (read s >>= fun p => more p.1 p.2) = .ok (b, t) at made
  cases first : read s with
  | error fault =>
    rw [first] at made
    cases made
  | ok p =>
    rw [first] at made
    exact other p.1 (one s p.1 p.2 first) p.2 b t made

theorem Makes.last (other : ∀ a, Makes (more a) Q) : Makes (read >>= more) Q :=
  Makes.bind (P := fun _ => True) (fun _ _ _ _ => trivial) fun a _ => other a

theorem Makes.pure {a : A} (here : P a) : Makes (pure a) P := by
  rintro s _ t ⟨⟩
  exact here

end

namespace Reader

variable {A : Type} {P : A -> Prop}

theorem makes_failAt (offset : Nat) (cause : Cause) : Makes (failAt offset cause : Reader A) P :=
  nofun

theorem makes_fail (cause : Cause) : Makes (fail cause : Reader A) P :=
  .last fun _ => makes_failAt _ cause

theorem makes_failAhead (cause : Cause) : Makes (failAhead cause : Reader A) P :=
  .last fun _ => makes_failAt _ cause

theorem makes_wrongType (expected : String) : Makes (wrongType expected : Reader A) P := by
  refine .last fun there => ?_
  cases there with
  | none => exact makes_failAhead _
  | some f => exact makes_fail _

theorem makes_value {read : Char -> Reader A} (each : ∀ c, Makes (read c) P) :
    Makes (value read) P := by
  refine .last fun there => ?_
  cases there with
  | none => exact makes_failAhead _
  | some c => exact each c

def Fits (n : Number) : Prop :=
  ∀ k, n = .count k -> k < wordBound

theorem makes_wordDigits (fuel : Nat) {acc : Nat} (fits : acc < wordBound) :
    Makes (wordDigits fuel acc) (· < wordBound) := by
  induction fuel generalizing acc with
  | zero => exact .pure fits
  | succ fuel ih =>
    refine .last fun there => ?_
    cases there with
    | none => exact .pure fits
    | some c =>
      dsimp only
      split
      next taken =>
        refine .last fun _ => ih ?_
        simpa using (Bool.and_eq_true_iff.mp taken).2
      next => exact .pure fits

theorem makes_real (minus : Bool) (significand : Nat) (exponent : Int) :
    Makes (real minus significand exponent) Fits := by
  unfold real
  split
  next => exact .pure nofun
  next => exact makes_fail _

theorem makes_exponentPart (minus : Bool) (significand : Nat) (start : Int) :
    Makes (exponentPart minus significand start) Fits := by
  unfold exponentPart
  refine .last fun _ => .last fun sign => ?_
  dsimp only
  split
  -- after a sign or without one, the digits are the same
  case' h_1 | h_2 => refine .last fun _ => ?_
  all_goals
    refine .last fun up => .last fun before => .last fun there => ?_
    cases there with
    | none => exact makes_fail _
    | some c =>
      dsimp only
      split
      next => exact makes_failAt _ _
      next =>
        refine .last fun ds => ?_
        split
        next =>
          split
          next => exact makes_failAt _ _
          next => exact .pure nofun
        next => exact makes_real _ _ _

theorem makes_fractionPart (minus : Bool) (significand : Nat) (start : Int) :
    Makes (fractionPart minus significand start) Fits := by
  unfold fractionPart
  refine .last fun _ => .last fun before => .last fun value => .last fun after =>
    .last fun more => ?_
  split
  next =>
    refine .last fun there => ?_
    cases there with
    | none => exact makes_fail _
    | some c => exact makes_failAhead _
  next =>
    refine .last fun there => ?_
    split
    next => exact makes_exponentPart _ _ _
    next => exact makes_exponentPart _ _ _
    next => exact makes_real _ _ _

theorem makes_number (minus : Bool) : Makes (number minus) Fits := by
  unfold number
  refine .last fun before => .last fun there => ?_
  cases there with
  | none => exact makes_fail _
  | some c =>
    dsimp only
    split
    next => exact makes_failAt _ _
    next =>
      have small : c.toNat - 48 < wordBound :=
        Nat.lt_of_le_of_lt (Nat.sub_le ..) (Nat.lt_trans c.val.toNat_lt (by decide))
      refine .last fun following => ?_
      split
      case' isTrue => refine .last fun _ => ?_
      all_goals
        refine .last fun here => .bind (makes_wordDigits _ small) fun value fits => ?_
        refine .last fun dropped => .last fun there => ?_
        split
        next => exact makes_fractionPart _ _ _
        next => exact makes_exponentPart _ _ _
        next => exact makes_exponentPart _ _ _
        next =>
          split
          next => exact makes_real _ _ _
          next =>
            split
            next =>
              -- only here is it a count
              refine .pure ?_
              rintro _ ⟨⟩
              exact fits
            next =>
              split
              next => exact makes_real _ _ _
              next => exact .pure nofun

theorem makes_count (expected : String) : Makes (count expected) (· < wordBound) := by
  refine makes_value fun c => ?_
  split
  next => exact makes_wrongType expected
  next =>
    split
    case' isTrue => refine .last fun _ => ?_
    all_goals
      refine .bind (makes_number _) fun n fits => ?_
      cases n with
      | count n => exact .pure (fits n rfl)
      | negative n => exact makes_fail _
      | real minus size => exact makes_fail _

theorem makes_itemsFrom {read : Reader A} (each : Makes read P) (fuel : Nat) (first : Bool) :
    Makes (itemsFrom read fuel first) (∀ a ∈ ·, P a) := by
  induction fuel generalizing first with
  | zero => exact makes_fail _
  | succ fuel ih =>
    refine .last fun more => ?_
    split
    next =>
      refine .bind each fun a here => .bind (ih false) fun others there => .pure ?_
      exact List.forall_mem_cons.mpr ⟨here, there⟩
    next => exact .pure (by simp)

theorem makes_list {read : Reader A} (each : Makes read P) :
    Makes (list read) (∀ a ∈ ·, P a) := by
  refine makes_value fun c => ?_
  split
  next => exact makes_wrongType _
  next =>
    refine .last fun _ => .last fun here => .bind (makes_itemsFrom each _ true) fun as all => ?_
    exact .last fun _ => .pure all

end Reader

namespace Shape

open Reader

variable {A B : Type} {P : A -> Prop}

def Keeps (f : Field A) (P : A -> Prop) : Prop :=
  ∀ a, P a -> Makes (f.read a) P

theorem keeps_known {key : String} {read : Reader B} {put : A -> B -> A} {Q : B -> Prop}
    (makes : Makes read Q) (puts : ∀ a b, P a -> Q b -> P (put a b)) :
    Keeps (known key read put) P :=
  fun a here => .bind makes fun b there => .pure (puts a b here there)

theorem keeps_beside {key : String} {read : Reader B} {put : A -> B -> A}
    (puts : ∀ a b, P a -> P (put a b)) : Keeps (known key read put) P :=
  keeps_known (Q := fun _ => True) (fun _ _ _ _ => trivial) fun a b here _ => puts a b here

theorem keeps_needed {key : String} {read : Reader B} {put : A -> B -> A}
    (keeps : Keeps (known key read put) P) : Keeps (needed key read put) P :=
  keeps

theorem makes_failRecord {C : Type} {R : C -> Prop} (close : Char) (cause : Cause) :
    Makes (failRecord close cause : Reader C) R := by
  refine .last fun there => ?_
  cases there with
  | none => exact makes_fail _
  | some c =>
    dsimp only
    split
    next => exact makes_failAhead _
    next => exact makes_fail _

theorem makes_membersFrom {shape : Shape A} (keeps : ∀ f ∈ shape.fields, Keeps f P) (fuel : Nat)
    (first : Bool) (seen : List String) {a : A} (here : P a) :
    Makes (shape.membersFrom fuel first seen a) P := by
  induction fuel generalizing first seen a with
  | zero => exact makes_fail _
  | succ fuel ih =>
    refine .last fun more => ?_
    split
    next =>
      refine .last fun _ => .last fun key => ?_
      split
      next f found =>
        have field := keeps f (List.mem_of_find?_eq_some found) a here
        split
        case' isTrue => refine .last fun _ => ?_
        all_goals exact .last fun _ => .bind field fun b there => ih false _ there
      next => exact .last fun _ => .last fun _ => ih false seen here
    next =>
      split
      next => exact makes_failRecord _ _
      next => exact .last fun _ => .pure here

theorem makes_itemsOf {shape : Shape A} {fields : List (Field A)}
    (keeps : ∀ f ∈ fields, Keeps f P) (place : Nat) {a : A} (here : P a) :
    Makes (shape.itemsOf place fields a) P := by
  induction fields generalizing place a with
  | nil => exact .pure here
  | cons f rest ih =>
    obtain ⟨first, others⟩ := List.forall_mem_cons.mp keeps
    refine .last fun more => ?_
    split
    next => exact .bind (first a here) fun b there => ih others (place + 1) there
    next =>
      split
      next => exact makes_failRecord _ _
      next => exact ih others (place + 1) here

theorem makes_record {shape : Shape A} (start : P shape.start)
    (keeps : ∀ f ∈ shape.fields, Keeps f P) : Makes shape.read P := by
  refine makes_value fun c => ?_
  split
  next => exact .last fun _ => .last fun here => makes_membersFrom keeps _ true [] start
  next =>
    refine .last fun _ => .bind (makes_itemsOf keeps 0 start) fun a there => ?_
    exact .last fun _ => .pure there
  next => exact makes_wrongType _

end Shape

theorem Makes.whole {A : Type} {read : Reader A} {P : A -> Prop} (makes : Makes read P)
    {text : String} {a : A} (done : read.whole text = .ok a) : P a := by
  have ended : Makes read.ended P := by
    refine .bind makes fun a here => .last fun there => ?_
    cases there with
    | none => exact .pure here
    | some c => exact Reader.makes_failAhead _
  rw [Reader.whole, StateT.run'] at done
  cases ran : read.ended { rest := text.toList, offset := 0 } with
  | error fault =>
    rw [ran] at done
    cases done
  | ok p =>
    rw [ran] at done
    cases done
    exact ended _ p.1 p.2 ran

end FleetSearch.Json
