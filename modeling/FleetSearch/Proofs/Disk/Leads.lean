import FleetSearch.Disk.Volume

set_option autoImplicit false

/-!
Where paths lead as they are written, whatever links there are.
-/

namespace FleetSearch.Disk

def Part.name? : Part -> Option String
  | .name s => some s
  | .root | .here | .up => none

namespace Path

@[simp] theorem pieces_slash (rest : List Char) : pieces ('/' :: rest) = [] :: pieces rest := rfl

theorem pieces_ne_nil (s : List Char) : pieces s ≠ [] := by
  cases s with
  | nil => simp [pieces]
  | cons c rest =>
    unfold pieces
    split <;> simp_all
    split <;> simp

theorem pieces_cons {c : Char} (plain : c ≠ '/') {rest first : List Char}
    {more : List (List Char)} (cut : pieces rest = first :: more) :
    pieces (c :: rest) = (c :: first) :: more := by
  rw [pieces, cut]
  exact fun same => plain same

theorem pieces_append (s rest : List Char) :
    pieces (s ++ '/' :: rest) = pieces s ++ pieces rest := by
  induction s with
  | nil => rfl
  | cons c s ih =>
    by_cases slash : c = '/'
    next => rw [slash, List.cons_append, pieces_slash, pieces_slash, ih, List.cons_append]
    next =>
      obtain ⟨first, more, cut⟩ := List.exists_cons_of_ne_nil (pieces_ne_nil s)
      rw [cut] at ih
      rw [List.cons_append, pieces_cons slash ih, pieces_cons slash cut]
      rfl

theorem pieces_name (s : List Char) (plain : '/' ∉ s) : pieces s = [s] := by
  induction s with
  | nil => rfl
  | cons c rest ih =>
    rw [List.mem_cons, not_or] at plain
    exact pieces_cons (Ne.symm plain.1) (ih plain.2)

def filled (s : List Char) : List (List Char) :=
  (pieces s).filter fun piece => !piece.isEmpty

theorem filled_append (s rest : List Char) : filled (s ++ '/' :: rest) = filled s ++ filled rest := by
  rw [filled, pieces_append, List.filter_append]
  rfl

theorem filled_join (base p : String) (relative : isAbsolute p = false) :
    filled (join base p).toList = filled base.toList ++ filled p.toList := by
  unfold join
  split
  next empty =>
    have nothing : base.toList = [] := by simpa [relative] using empty
    rw [nothing]
    rfl
  next =>
    split
    next slash =>
      obtain ⟨front, ends⟩ := List.getLast?_eq_some_iff.mp (by simpa using slash)
      have closed : filled base.toList = filled front := by
        rw [ends, filled_append]
        exact List.append_nil _
      rw [String.toList_append, closed, ends, List.append_assoc, List.singleton_append,
        filled_append]
    next =>
      rw [String.toList_append, String.toList_append, List.append_assoc]
      exact filled_append _ _

def enter (here : List String) : Part -> List String
  | .root => []
  | .here => here
  | .up => here.dropLast
  | .name s => here ++ [s]

/-- The names from the root on to where a path leads, for a process in `cwd`. -/
def leadsTo (cwd : List String) (p : String) : List String :=
  (parts p).foldl enter cwd

theorem foldl_enter_filter (here : List String) (rest : List Part) :
    (rest.filter (· != .here)).foldl enter here = rest.foldl enter here := by
  induction rest generalizing here with
  | nil => rfl
  | cons part rest ih =>
    by_cases dot : part = .here
    next =>
      rw [List.filter_cons_of_neg (by simp [dot]), ih, dot]
      rfl
    next => rw [List.filter_cons_of_pos (by simpa using dot), List.foldl_cons, List.foldl_cons, ih]

theorem leadsTo_eq (cwd : List String) (p : String) :
    leadsTo cwd p =
      ((filled p.toList).map partOf).foldl enter (if isAbsolute p then [] else cwd) := by
  unfold leadsTo parts filled
  cases ((pieces p.toList).filter fun piece => !piece.isEmpty).map partOf with
  | nil => by_cases rooted : isAbsolute p = true <;> simp [rooted, enter]
  | cons first rest =>
    by_cases rooted : isAbsolute p = true
    next =>
      simp only [rooted, if_true]
      rw [List.foldl_cons, enter]
      by_cases dot : first = .here
      next =>
        rw [if_pos dot, foldl_enter_filter, dot]
        rfl
      next => rw [if_neg dot, List.foldl_cons, foldl_enter_filter, List.foldl_cons]
    next => simp only [rooted, Bool.false_eq_true, if_false, List.foldl_cons, foldl_enter_filter]

theorem isAbsolute_join (base p : String) (there : base ≠ "") (relative : isAbsolute p = false) :
    isAbsolute (join base p) = isAbsolute base := by
  obtain ⟨c, rest, start⟩ := List.exists_cons_of_ne_nil (l := base.toList) (by simpa using there)
  unfold join
  rw [if_neg (by simp [relative, there])]
  split <;> simp [isAbsolute, start]

theorem leadsTo_join (cwd : List String) (base p : String) (relative : isAbsolute p = false) :
    leadsTo cwd (join base p) = leadsTo (leadsTo cwd base) p := by
  rw [leadsTo_eq, filled_join base p relative, List.map_append, List.foldl_append,
    leadsTo_eq (leadsTo cwd base) p, leadsTo_eq cwd base]
  simp only [relative, Bool.false_eq_true, if_false]
  by_cases there : base = ""
  next =>
    subst there
    have alone : join "" p = p := by simp [join]
    rw [alone, relative]
    rfl
  next => rw [isAbsolute_join base p there relative]

def names (p : String) : List String :=
  (parts p).filterMap Part.name?

-- A path that leads further in, whatever it starts from.
structure IsInward (p : String) : Prop where
  relative : isAbsolute p = false
  never : .up ∉ parts p
  named : names p ≠ []

instance (p : String) : Decidable (IsInward p) :=
  decidable_of_iff (isAbsolute p = false ∧ .up ∉ parts p ∧ names p ≠ [])
    ⟨fun ⟨relative, never, named⟩ => ⟨relative, never, named⟩,
      fun inward => ⟨inward.relative, inward.never, inward.named⟩⟩

theorem root_notMem_filled (s : List Char) : .root ∉ (filled s).map partOf := by
  intro member
  obtain ⟨piece, _, root⟩ := List.mem_map.mp member
  unfold partOf at root
  split at root
  next => cases root
  next => split at root <;> cases root

theorem foldl_enter_inward (here : List String) (rest : List Part) (never : .up ∉ rest)
    (below : .root ∉ rest) : rest.foldl enter here = here ++ rest.filterMap Part.name? := by
  induction rest generalizing here with
  | nil => simp
  | cons part rest ih =>
    rw [List.mem_cons, not_or] at never below
    rw [List.foldl_cons, ih _ never.2 below.2]
    cases part with
    | root => exact absurd rfl below.1
    | up => exact absurd rfl never.1
    | here => rfl
    | name s => exact List.append_assoc ..

theorem root_notMem_parts (p : String) (relative : isAbsolute p = false) : .root ∉ parts p := by
  have absent := root_notMem_filled p.toList
  unfold parts
  unfold filled at absent
  cases cut : ((pieces p.toList).filter fun piece => !piece.isEmpty).map partOf with
  | nil => simp [relative]
  | cons first rest =>
    rw [cut, List.mem_cons, not_or] at absent
    simp only [relative, Bool.false_eq_true, if_false, List.mem_cons, not_or]
    exact ⟨absent.1, fun member => absent.2 (List.mem_filter.mp member).1⟩

theorem IsInward.leadsTo {p : String} (inward : IsInward p) (here : List String) :
    leadsTo here p = here ++ names p :=
  foldl_enter_inward here (parts p) inward.never (root_notMem_parts p inward.relative)

structure IsFileName (p : String) : Prop where
  some : p ≠ ""
  own : p ≠ "." ∧ p ≠ ".."
  plain : '/' ∉ p.toList

namespace IsFileName

variable {p : String}

theorem relative (fits : IsFileName p) : isAbsolute p = false := by
  have plain := fits.plain
  unfold isAbsolute
  cases start : p.toList with
  | nil => rfl
  | cons c rest =>
    rw [start, List.mem_cons, not_or] at plain
    simpa using Ne.symm plain.1

theorem filled (fits : IsFileName p) : filled p.toList = [p.toList] := by
  have there : p.toList.isEmpty = false := by simpa using fits.some
  rw [Path.filled, pieces_name _ fits.plain, List.filter_cons_of_pos (by simp [there])]
  rfl

theorem partOf (fits : IsFileName p) : partOf p.toList = .name p := by
  have dot : p.toList ≠ ['.'] := fun same => fits.own.1 (String.ext same)
  have dots : p.toList ≠ ['.', '.'] := fun same => fits.own.2 (String.ext same)
  rw [Path.partOf, if_neg dot, if_neg dots, String.ofList_toList]

theorem parts (fits : IsFileName p) : parts p = [.name p] := by
  have filled := fits.filled
  unfold Path.filled at filled
  simp [Path.parts, filled, fits.relative, fits.partOf]

theorem names (fits : IsFileName p) : names p = [p] := by
  rw [Path.names, fits.parts]
  rfl

theorem isInward (fits : IsFileName p) : IsInward p where
  relative := fits.relative
  never := by simp [fits.parts]
  named := by simp [fits.names]

end IsFileName

def Apart (a b : List String) : Prop :=
  ¬ a <+: b ∧ ¬ b <+: a

instance (a b : List String) : Decidable (Apart a b) :=
  inferInstanceAs (Decidable (¬ a <+: b ∧ ¬ b <+: a))

theorem Apart.symm {a b : List String} (apart : Apart a b) : Apart b a :=
  ⟨apart.2, apart.1⟩

theorem Apart.below {a b : List String} (apart : Apart a b) (more : List String) :
    Apart a (b ++ more) := by
  constructor
  · intro inside
    rcases List.prefix_or_prefix_of_prefix inside (List.prefix_append b more) with above | above
    · exact apart.1 above
    · exact apart.2 above
  · exact fun inside => apart.2 ((List.prefix_append b more).trans inside)

end Path

end FleetSearch.Disk
