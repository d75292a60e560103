set_option autoImplicit false

/-!
Paths are texts with `/` between names. They are joined and shown as they are written; only what
compares or walks them looks at their parts.
-/

namespace FleetSearch.Disk

inductive Part where
  | root
  | here
  | up
  | name (s : String)
deriving DecidableEq, Inhabited

namespace Path

def isAbsolute (p : String) : Bool :=
  p.toList.head? == some '/'

-- An absolute path replaces the one that it is joined to.
def join (base p : String) : String :=
  if isAbsolute p || base.isEmpty then p
  else if base.toList.getLast? == some '/' then base ++ p
  else base ++ "/" ++ p

def pieces (s : List Char) : List (List Char) :=
  match s with
  | [] => [[]]
  | '/' :: rest => [] :: pieces rest
  | c :: rest =>
    match pieces rest with
    | [] => [[c]]
    | first :: more => (c :: first) :: more

def partOf (piece : List Char) : Part :=
  if piece = ['.'] then .here
  else if piece = ['.', '.'] then .up
  else .name (String.ofList piece)

-- The parts that say where a path leads: empty pieces do not count, nor does a dot that is not the
-- first piece.
def parts (p : String) : List Part :=
  let all := ((pieces p.toList).filter fun piece => !piece.isEmpty).map partOf
  match all with
  | first :: rest =>
    let rest := rest.filter (· != .here)
    if isAbsolute p then .root :: (if first = .here then rest else first :: rest)
    else first :: rest
  | [] => if isAbsolute p then [.root] else []

def dropSlashes (s : List Char) : List Char :=
  (s.reverse.dropWhile (· = '/')).reverse

def trimTail : (fuel : Nat) -> List Char -> List Char
  | 0, s => s
  | fuel + 1, s =>
    let cut := dropSlashes s
    if cut.isEmpty then (if s.isEmpty then [] else ['/'])
    else
      match cut.reverse with
      | '.' :: '/' :: rest => trimTail fuel (rest.reverse ++ ['/'])
      | _ => cut

def parent (p : String) : Option String :=
  match (parts p).reverse with
  | [] => none
  | .root :: _ => none
  | _ :: _ =>
    let text := trimTail p.length p.toList
    let before := (text.reverse.dropWhile (· != '/')).reverse
    some (String.ofList (trimTail p.length before))

def fileName (p : String) : Option String :=
  match (parts p).reverse with
  | .name s :: _ => some s
  | _ => none

def extension (name : String) : Option String :=
  let cs := name.toList.reverse
  let after := cs.takeWhile (· != '.')
  match cs.drop after.length with
  | [] => none
  | _ :: before => if before.isEmpty then none else some (String.ofList after.reverse)

end Path

end FleetSearch.Disk
