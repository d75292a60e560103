import FleetSearch.Proofs.Pattern.InLine
import FleetSearch.Proofs.Text.Lines

set_option autoImplicit false

namespace FleetSearch.Pattern

open FleetSearch.Text

section

variable {carriage : Bool}

theorem mem_distinct (seen threads : List Expr.Thread) (t : Expr.Thread)
    (member : t ∈ distinct seen threads) : t ∈ seen ∨ t ∈ threads := by
  induction threads generalizing seen with
  | nil => exact .inl (by simpa [distinct] using member)
  | cons first rest ih =>
    rw [distinct] at member
    split at member
    next => exact (ih seen member).imp_right (List.mem_cons_of_mem _)
    next =>
      cases ih (first :: seen) member with
      | inl kept =>
        cases List.mem_cons.mp kept with
        | inl same => exact .inr (by simp [same])
        | inr old => exact .inl old
      | inr later => exact .inr (List.mem_cons_of_mem _ later)

theorem any_isNullable_alike {a b : Around} (alike : a.Alike carriage b)
    (threads : List Expr.Thread)
    (inLine : ∀ t ∈ threads, Thread.staysInLine carriage t = true) :
    threads.any (Thread.isNullable a) = threads.any (Thread.isNullable b) := by
  induction threads with
  | nil => rfl
  | cons t rest ih =>
    have first := Thread.isNullable_alike carriage a b alike t (inLine t List.mem_cons_self)
    have later := ih fun u member => inLine u (List.mem_cons_of_mem _ member)
    rw [List.any_cons, List.any_cons, first, later]

theorem flatMap_step_alike {a b : Around} (alike : a.Alike carriage b) (c : Char)
    (threads : List Expr.Thread)
    (inLine : ∀ t ∈ threads, Thread.staysInLine carriage t = true) :
    threads.flatMap (Thread.step a c) = threads.flatMap (Thread.step b c) :=
  List.flatMap_congr fun t member => Thread.step_alike carriage a b alike c t (inLine t member)

theorem flatMap_step_edge (a : Around) (c : Char) (edge : isEdge carriage (some c) = true)
    (threads : List Expr.Thread)
    (inLine : ∀ t ∈ threads, Thread.staysInLine carriage t = true) :
    threads.flatMap (Thread.step a c) = [] :=
  List.flatMap_eq_nil_iff.mpr fun t member =>
    Thread.step_edge carriage a c edge t (inLine t member)

variable {e : Expr}

theorem start_staysInLine (inLine : e.staysInLine carriage = true) (threads : List Expr.Thread)
    (each : ∀ t ∈ threads, Thread.staysInLine carriage t = true) :
    ∀ t ∈ [e] :: threads, Thread.staysInLine carriage t = true := by
  intro t member
  cases List.mem_cons.mp member with
  | inl new => simpa [new, Thread.staysInLine] using inLine
  | inr old => exact each t old

theorem search_after_break (inLine : e.staysInLine carriage = true) (text : List Char) :
    search e (some '\n') [] text = search e none [] text := by
  have each := start_staysInLine inLine [] (by simp)
  have alike (after : Option Char) : Around.Alike carriage ⟨some '\n', after⟩ ⟨none, after⟩ :=
    ⟨.inr ⟨rfl, rfl⟩, .inl rfl⟩
  cases text with
  | nil => exact any_isNullable_alike (alike none) _ each
  | cons c rest =>
    rw [search, search, any_isNullable_alike (alike c) _ each,
      flatMap_step_alike (alike c) c _ each]

theorem search_cut (inLine : e.staysInLine carriage = true) (c : Char)
    (edge : isEdge carriage (some c) = true) (before : Option Char) (threads : List Expr.Thread)
    (each : ∀ t ∈ threads, Thread.staysInLine carriage t = true) (line rest : List Char) :
    search e before threads (line ++ c :: rest) =
      (search e before threads line || search e (some c) [] rest) := by
  induction line generalizing before threads with
  | nil =>
    have all := start_staysInLine inLine threads each
    have alike : Around.Alike carriage ⟨before, some c⟩ ⟨before, none⟩ :=
      ⟨.inl rfl, .inr ⟨edge, rfl⟩⟩
    -- all threads end at `c`, so what follows is searched from its start
    rw [List.nil_append, search, search, any_isNullable_alike alike _ all,
      flatMap_step_edge _ c edge _ all]
    rfl
  | cons d line ih =>
    have all := start_staysInLine inLine threads each
    rw [List.cons_append, search, search, ih, Bool.or_assoc]
    intro t member
    cases mem_distinct _ _ t member with
    | inl none => cases none
    | inr stepped =>
      obtain ⟨u, there, taken⟩ := List.mem_flatMap.mp stepped
      exact Thread.step_staysInLine carriage _ d u (all u there) t taken

theorem search_end (consumes : e.consumes = true) (before : Option Char) :
    search e before [] [] = false := by
  simp [search, Thread.isNullable, e.not_isNullable _ consumes]

theorem occursIn_break (inLine : e.staysInLine carriage = true) (line rest : List Char) :
    e.occursIn (line ++ '\n' :: rest) = (e.occursIn line || e.occursIn rest) := by
  have cut := search_cut inLine '\n' rfl none [] (by simp) line rest
  rwa [search_after_break inLine] at cut

theorem occursIn_dropReturn (inLine : e.staysInLine carriage = true) (consumes : e.consumes = true)
    (line : List Char) (plain : carriage = true ∨ '\r' ∉ line) :
    e.occursIn (dropReturn line.reverse).reverse = e.occursIn line := by
  cases turned : line.reverse with
  | nil => simp [List.reverse_eq_nil_iff.mp turned, dropReturn]
  | cons c others =>
    have ends : line = others.reverse ++ [c] := by
      rw [← List.reverse_cons, ← turned, List.reverse_reverse]
    by_cases ret : c = '\r'
    next =>
      subst ret
      obtain rfl : carriage = true := plain.resolve_right fun absent => absent (by simp [ends])
      have cut := search_cut inLine '\r' rfl none [] (by simp) others.reverse []
      rw [search_end consumes, Bool.or_false] at cut
      rw [ends]
      exact cut.symm
    next =>
      simp [dropReturn, ret, ends]

theorem occursIn_lines (inLine : e.staysInLine carriage = true) (consumes : e.consumes = true)
    (text : List Char) (plain : carriage = true ∨ '\r' ∉ text) :
    e.occursIn text = (lines text).any e.occursIn := by
  induction text using byLine with
  | last line unbroken =>
    cases line with
    | nil => exact search_end consumes none
    | cons c others =>
      rw [lines_last (c :: others) unbroken (by simp)]
      simp
  | more line rest unbroken ih =>
    have own : carriage = true ∨ '\r' ∉ line := plain.imp_right fun absent member =>
      absent (List.mem_append_left _ member)
    have others : carriage = true ∨ '\r' ∉ rest := plain.imp_right fun absent member =>
      absent (List.mem_append_right _ (List.mem_cons_of_mem _ member))
    rw [occursIn_break inLine, lines_break line rest unbroken, List.any_cons,
      occursIn_dropReturn inLine consumes line own, ih others]

end

end FleetSearch.Pattern
