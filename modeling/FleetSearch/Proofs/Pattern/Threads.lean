import FleetSearch.Pattern.Expr
import Mathlib.Data.List.Basic

set_option autoImplicit false

/-!
A search told thread by thread. The search keeps all threads at once; whether it finds something is
whether one of them, followed alone from the place where it starts, comes to its end.
-/

namespace FleetSearch.Pattern

open FleetSearch.Unicode

def Thread.accepts : (before : Option Char) -> Expr.Thread -> List Char -> Bool
  | before, t, [] => isNullable { before, after := none } t
  | before, t, c :: rest =>
    isNullable { before, after := some c } t
      || (step { before, after := some c } c t).any fun next => accepts (some c) next rest

def Expr.matchesFrom (e : Expr) : (before : Option Char) -> List Char -> Bool
  | before, [] => Thread.accepts before [e] []
  | before, c :: rest => Thread.accepts before [e] (c :: rest) || matchesFrom e (some c) rest

theorem any_distinct (p : Expr.Thread -> Bool) (seen threads : List Expr.Thread) :
    (distinct seen threads).any p = (seen.any p || threads.any p) := by
  induction threads generalizing seen with
  | nil => simp [distinct]
  | cons t rest ih =>
    rw [distinct]
    split
    next old =>
      -- a thread that is dropped has been kept before
      have old : t ∈ seen := by simpa using old
      rw [ih, List.any_cons]
      cases holds : p t with
      | false => rfl
      | true =>
        have any : seen.any p = true := List.any_eq_true.mpr ⟨t, old, holds⟩
        simp [any]
    next =>
      rw [ih, List.any_cons, List.any_cons, Bool.or_left_comm, Bool.or_assoc]

theorem search_eq (e : Expr) (before : Option Char) (threads : List Expr.Thread)
    (text : List Char) :
    search e before threads text =
      (threads.any (fun t => Thread.accepts before t text) || e.matchesFrom before text) := by
  induction text generalizing before threads with
  | nil =>
    simp only [search, List.any_cons, Thread.accepts, Expr.matchesFrom]
    exact Bool.or_comm _ _
  | cons c rest ih =>
    have both (ts : List Expr.Thread) : ts.any (fun t => Thread.accepts before t (c :: rest)) =
        (ts.any (Thread.isNullable { before, after := some c })
          || (ts.flatMap (Thread.step { before, after := some c } c)).any
            fun t => Thread.accepts (some c) t rest) := by
      induction ts with
      | nil => rfl
      | cons t more ih =>
        rw [List.any_cons, List.any_cons, List.flatMap_cons, List.any_append, ih, Thread.accepts]
        ac_rfl
    have first := both ([e] :: threads)
    rw [List.any_cons] at first
    -- a new thread starts at each place beside those that go on
    rw [search, ih, any_distinct, List.any_nil, Bool.false_or, ← Bool.or_assoc, ← first,
      Expr.matchesFrom]
    ac_rfl

theorem occursIn_eq (e : Expr) (text : List Char) : e.occursIn text = e.matchesFrom none text := by
  rw [Expr.occursIn, search_eq]
  rfl

namespace Thread

theorem accepts_alt (left right : Expr) (t : Expr.Thread) (before : Option Char)
    (text : List Char) :
    accepts before (.alt left right :: t) text =
      (accepts before (left :: t) text || accepts before (right :: t) text) := by
  cases text with
  | nil => simp [accepts, isNullable, Expr.isNullable, Bool.and_or_distrib_right]
  | cons c rest =>
    cases one : left.isNullable { before, after := some c } <;>
      cases two : right.isNullable { before, after := some c } <;>
      simp [accepts, isNullable, step, Expr.isNullable, Expr.step, one, two] <;> ac_rfl

theorem accepts_seq_set (s : CharSet) (e : Expr) (before : Option Char) (text : List Char) :
    accepts before [.seq (.set s) e] text =
      match text with
      | [] => false
      | c :: rest => s.contains c && accepts (some c) [e] rest := by
  cases text with
  | nil => rfl
  | cons c rest =>
    cases taken : s.contains c <;>
      simp [accepts, isNullable, step, Expr.isNullable, Expr.step, taken]

theorem accepts_textEnd (before : Option Char) (text : List Char) :
    accepts before [.look .textEnd] text = text.isEmpty := by
  cases text with
  | nil => rfl
  | cons c rest => simp [accepts, isNullable, step, Expr.isNullable, Expr.step, Look.holds]

theorem accepts_textStart (e : Expr) (before : Option Char) (text : List Char) :
    accepts before [.seq (.look .textStart) e] text =
      (before.isNone && accepts before [e] text) := by
  cases before <;> cases text <;>
    simp [accepts, isNullable, step, Expr.isNullable, Expr.step, Look.holds]

end Thread

end FleetSearch.Pattern
