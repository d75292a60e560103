set_option autoImplicit false

/-!
Sets of characters as lists of ranges. The ranges of a set are in order, and between two of them
there is always a character that is not in the set.
-/

namespace FleetSearch.Unicode

structure CharSet where
  ranges : List (Nat × Nat)
deriving Inhabited

instance : DecidableEq CharSet := fun a b =>
  withPtrEqDecEq a b fun _ =>
    if h : a.ranges = b.ranges then .isTrue (congrArg CharSet.mk h)
    else .isFalse fun e => h (congrArg CharSet.ranges e)

namespace CharSet

def empty : CharSet := { ranges := [] }

def last : Nat := 0x10FFFF

def everything : CharSet := { ranges := [(0, last)] }

def ofRange (low high : Nat) : CharSet := { ranges := [(low, high)] }

def ofChar (c : Char) : CharSet := ofRange c.toNat c.toNat

-- Joins ranges that meet or overlap; they have to be in the order of their first characters.
def joinFrom : (low high : Nat) -> List (Nat × Nat) -> List (Nat × Nat)
  | low, high, [] => [(low, high)]
  | low, high, (l, h) :: rest =>
    if l <= high + 1 then joinFrom low (max high h) rest
    else (low, high) :: joinFrom l h rest

def ofSorted : List (Nat × Nat) -> CharSet
  | [] => empty
  | (low, high) :: rest => { ranges := joinFrom low high rest }

def ofRanges (ranges : List (Nat × Nat)) : CharSet :=
  ofSorted (ranges.mergeSort fun a b => a.1 <= b.1)

def union (a b : CharSet) : CharSet :=
  ofSorted (List.merge a.ranges b.ranges fun x y => x.1 <= y.1)

def gaps (bound : Nat) : (first : Nat) -> List (Nat × Nat) -> List (Nat × Nat)
  | first, [] => if first <= bound then [(first, bound)] else []
  | first, (low, high) :: rest =>
    if first < low then (first, low - 1) :: gaps bound (high + 1) rest
    else gaps bound (high + 1) rest

def complementWithin (bound : Nat) (set : CharSet) : CharSet :=
  { ranges := gaps bound 0 set.ranges }

def complement (set : CharSet) : CharSet :=
  set.complementWithin last

def inter (a b : CharSet) : CharSet :=
  (a.complement.union b.complement).complement

def diff (a b : CharSet) : CharSet :=
  (a.complement.union b).complement

def symmDiff (a b : CharSet) : CharSet :=
  (a.union b).diff (a.inter b)

def holdsIn (n : Nat) : List (Nat × Nat) -> Bool
  | [] => false
  | (low, high) :: rest => if n < low then false else n <= high || holdsIn n rest

def holds (set : CharSet) (n : Nat) : Bool :=
  holdsIn n set.ranges

def contains (set : CharSet) (c : Char) : Bool :=
  set.holds c.toNat

def isAscii (set : CharSet) : Bool :=
  set.ranges.all fun r => r.2 < 0x80

end CharSet

end FleetSearch.Unicode
