import FleetSearch.Text.Lines
import Mathlib.Data.List.Basic

set_option autoImplicit false

namespace FleetSearch.Text

theorem linesFrom_reverse (line : List Char) (done : List (List Char)) (text : List Char) :
    linesFrom line done text = done.reverse ++ linesFrom line [] text := by
  induction text generalizing line done with
  | nil => cases line <;> simp [linesFrom]
  | cons c rest ih =>
    by_cases broken : c = '\n'
    next =>
      subst broken
      have later := ih [] ((dropReturn line).reverse :: done)
      have alone := ih [] [(dropReturn line).reverse]
      simp [linesFrom, later, alone]
    next =>
      have later := ih (c :: line) done
      simpa [linesFrom, broken] using later

theorem linesFrom_unbroken (passed line : List Char) (unbroken : '\n' ∉ line) (rest : List Char) :
    linesFrom passed [] (line ++ rest) = linesFrom (line.reverse ++ passed) [] rest := by
  induction line generalizing passed with
  | nil => rfl
  | cons c line ih =>
    have plain : c ≠ '\n' := fun same => unbroken (by simp [same])
    have later := ih (c :: passed) (fun member => unbroken (List.mem_cons_of_mem _ member))
    simpa [linesFrom, plain] using later

theorem lines_break (line rest : List Char) (unbroken : '\n' ∉ line) :
    lines (line ++ '\n' :: rest) = (dropReturn line.reverse).reverse :: lines rest := by
  have passed := linesFrom_unbroken [] line unbroken ('\n' :: rest)
  have later := linesFrom_reverse [] [(dropReturn line.reverse).reverse] rest
  simpa [lines, linesFrom, later] using passed

theorem lines_last (line : List Char) (unbroken : '\n' ∉ line) (nonempty : line ≠ []) :
    lines line = [line] := by
  have passed := linesFrom_unbroken [] line unbroken []
  have filled : line.reverse ≠ [] := by simpa using nonempty
  simp only [List.append_nil] at passed
  rw [lines, passed]
  cases seen : line.reverse with
  | nil => exact absurd seen filled
  | cons c others => simp [linesFrom, ← seen]

@[elab_as_elim]
theorem byLine {motive : List Char -> Prop} (last : ∀ line, '\n' ∉ line -> motive line)
    (more : ∀ line rest, '\n' ∉ line -> motive rest -> motive (line ++ '\n' :: rest))
    (text : List Char) : motive text := by
  by_cases broken : '\n' ∈ text
  next =>
    obtain ⟨line, rest, shape, unbroken⟩ := List.eq_append_cons_of_mem broken
    have shorter : rest.length < text.length := by
      simp [shape]
      omega
    rw [shape]
    exact more line rest unbroken (byLine last more rest)
  next => exact last text broken
termination_by text.length

/-- How a text is cut into its lines: at each `\n` or `\r\n`, and no line follows a break at the
end. -/
inductive Cut : (text : List Char) -> (lines : List (List Char)) -> Prop
  | done : Cut [] []
  -- the last line needs no break, and a `\r` without one belongs to it
  | last (line : List Char) (unbroken : '\n' ∉ line) (some : line ≠ []) : Cut line [line]
  | newline (line rest : List Char) (more : List (List Char)) (unbroken : '\n' ∉ line)
      (plain : line.getLast? ≠ some '\r') (cut : Cut rest more) :
    Cut (line ++ '\n' :: rest) (line :: more)
  | carriage (line rest : List Char) (more : List (List Char)) (unbroken : '\n' ∉ line)
      (cut : Cut rest more) : Cut (line ++ '\r' :: '\n' :: rest) (line :: more)

theorem dropReturn_plain {line : List Char} (plain : line.getLast? ≠ some '\r') :
    (dropReturn line.reverse).reverse = line := by
  rcases List.eq_nil_or_concat line with rfl | ⟨front, c, rfl⟩
  · rfl
  · have other : c ≠ '\r' := by simpa using plain
    simp [dropReturn, other]

theorem dropReturn_carriage (line : List Char) :
    (dropReturn (line ++ ['\r']).reverse).reverse = line := by
  simp [dropReturn]

theorem cut_lines (text : List Char) : Cut text (lines text) := by
  induction text using byLine with
  | last line unbroken =>
    by_cases empty : line = []
    next =>
      subst empty
      exact .done
    next =>
      rw [lines_last line unbroken empty]
      exact .last line unbroken empty
  | more line rest unbroken ih =>
    rw [lines_break line rest unbroken]
    by_cases plain : line.getLast? = some '\r'
    next =>
      obtain ⟨front, rfl⟩ := List.getLast?_eq_some_iff.mp plain
      have inside : '\n' ∉ front := fun member => unbroken (List.mem_append_left _ member)
      rw [dropReturn_carriage, List.append_assoc]
      exact .carriage front rest (lines rest) inside ih
    next =>
      rw [dropReturn_plain plain]
      exact .newline line rest (lines rest) unbroken plain ih

end FleetSearch.Text
