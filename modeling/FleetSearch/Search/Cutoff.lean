set_option autoImplicit false

/-!
The page cutoff. Probes end in any order; the page covers the repositories before the first one
that is still open, and stops right after the match that fills it.
-/

namespace FleetSearch.Search

structure Cutoff where
  -- the answer of each repository whose probe has ended
  answers : List (Option Bool)
  limit : Nat
  firstOpen : Nat
  found : Nat
deriving DecidableEq, Inhabited

namespace Cutoff

def start (count limit : Nat) : Cutoff where
  answers := List.replicate count none
  limit := limit
  firstOpen := 0
  found := 0

-- Walks over answered repositories until the page is full. `rest` holds the answers from
-- `firstOpen` on.
def walk (limit : Nat) : (rest : List (Option Bool)) -> (firstOpen found : Nat) -> Nat × Nat
  | some answer :: rest, firstOpen, found =>
    if found < limit then
      walk limit rest (firstOpen + 1) (if answer then found + 1 else found)
    else (firstOpen, found)
  | _, firstOpen, found => (firstOpen, found)

def advance (c : Cutoff) : Cutoff :=
  let (firstOpen, found) := walk c.limit (c.answers.drop c.firstOpen) c.firstOpen c.found
  { c with firstOpen, found }

-- An index past the end is ignored, but the walk still takes place.
def record (c : Cutoff) (index : Nat) (found : Bool) : Cutoff :=
  { c with answers := c.answers.set index (some found) }.advance

def tell (c : Cutoff) (index : Nat) (found : Bool) : (Nat × Nat) × Cutoff :=
  let c := { c with answers := c.answers.set index (some found) }
  (walk c.limit (c.answers.drop c.firstOpen) c.firstOpen c.found, c.advance)

def settled (c : Cutoff) : Bool :=
  c.limit <= c.found || c.firstOpen == c.answers.length

def isAnswered (c : Cutoff) (index : Nat) : Bool :=
  match c.answers[index]? with
  | some (some _) => true
  | _ => false

end Cutoff

end FleetSearch.Search
