import FleetSearch.Search.Selector

set_option autoImplicit false

namespace FleetSearch

namespace Text

theorem trimEnd_cons (c : Char) (s : List Char) :
    trimEnd (c :: s) = if (trimEnd s).isEmpty && isBlank c then [] else c :: trimEnd s := by
  unfold trimEnd
  rw [List.reverse_cons, List.dropWhile_append, List.isEmpty_reverse]
  cases none : (s.reverse.dropWhile isBlank).isEmpty with
  | false => simp
  | true =>
    rw [List.isEmpty_iff] at none
    cases blank : isBlank c <;> simp [none, blank]

theorem trim_cons_blank {c : Char} (blank : isBlank c = true) (s : List Char) :
    trim (c :: s) = trim s := by
  simp [trim, trimStart, blank]

theorem ne_comma {c : Char} (blank : isBlank c = true) : c ≠ ',' := by
  rintro rfl
  exact absurd blank (by decide)

theorem trim_eq (s : List Char) : trim s = trimStart (trimEnd s) := by
  induction s with
  | nil => rfl
  | cons c rest ih =>
    cases blank : isBlank c with
    | true =>
      rw [trim_cons_blank blank, ih, trimEnd_cons]
      split
      next none => simp_all [trimStart]
      next => simp [trimStart, blank]
    | false =>
      have kept : trim (c :: rest) = trimEnd (c :: rest) := by simp [trim, trimStart, blank]
      rw [kept, trimEnd_cons]
      simp [trimStart, blank]

end Text

namespace Search

open FleetSearch.Text

theorem splitOn_cons (c : Char) (s : List Char) :
    (c :: s).splitOn ',' =
      if c = ',' then [] :: s.splitOn ',' else (s.splitOn ',').modifyHead (c :: ·) := by
  rw [List.splitOn_cons_eq_if_modifyHead]
  simp

theorem commaPieces_eq_splitOn (s : List Char) : commaPieces s = s.splitOn ',' := by
  induction s with
  | nil => rfl
  | cons c rest ih =>
    rw [splitOn_cons, ← ih]
    by_cases comma : c = ','
    next => simp [comma, commaPieces]
    next =>
      have some : commaPieces rest ≠ [] := by simp [ih]
      cases pieces : commaPieces rest with
      | nil => exact absurd pieces some
      | cons first more => simp [comma, commaPieces, pieces]

theorem pieces_trimStart (s : List Char) :
    ((trimStart s).splitOn ',').map trim = (s.splitOn ',').map trim := by
  induction s with
  | nil => rfl
  | cons c rest ih =>
    cases blank : isBlank c with
    | false => simp [trimStart, blank]
    | true =>
      have dropped : trimStart (c :: rest) = trimStart rest := by simp [trimStart, blank]
      rw [dropped, ih, splitOn_cons, if_neg (ne_comma blank)]
      cases pieces : rest.splitOn ',' <;> simp [trim_cons_blank blank]

theorem map_trimEnd_modifyHead (c : Char) (pieces : List (List Char)) :
    (pieces.modifyHead (c :: ·)).map trimEnd =
      (pieces.map trimEnd).modifyHead fun piece =>
        if piece.isEmpty && isBlank c then [] else c :: piece := by
  cases pieces <;> simp [trimEnd_cons]

theorem pieces_trimEnd (s : List Char) :
    ((trimEnd s).splitOn ',').map trimEnd = (s.splitOn ',').map trimEnd := by
  induction s with
  | nil => rfl
  | cons c rest ih =>
    rw [trimEnd_cons]
    by_cases dropped : ((trimEnd rest).isEmpty && isBlank c) = true
    next =>
      obtain ⟨none, blank⟩ := Bool.and_eq_true_iff.mp dropped
      rw [List.isEmpty_iff] at none
      rw [none] at ih
      rw [if_pos dropped, splitOn_cons, if_neg (ne_comma blank), map_trimEnd_modifyHead, ← ih]
      simp [trimEnd, blank]
    next =>
      rw [if_neg dropped, splitOn_cons, splitOn_cons]
      split
      next => rw [List.map_cons, ih, List.map_cons]
      next => rw [map_trimEnd_modifyHead, ih, map_trimEnd_modifyHead]

theorem pieces_trim (s : List Char) :
    (commaPieces (trim s)).map trim = (s.splitOn ',').map trim := by
  have twice (pieces : List (List Char)) :
      pieces.map trim = (pieces.map trimEnd).map trimStart := by
    simp [trim_eq]
  calc (commaPieces (trim s)).map trim
      = ((trimEnd (trimStart s)).splitOn ',').map trim := by rw [commaPieces_eq_splitOn, trim]
    _ = ((trimStart s).splitOn ',').map trim := by rw [twice, pieces_trimEnd, ← twice]
    _ = (s.splitOn ',').map trim := pieces_trimStart s

end Search

end FleetSearch
