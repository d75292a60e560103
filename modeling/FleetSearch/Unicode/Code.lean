import FleetSearch.Unicode.CharSet

set_option autoImplicit false

/-!
Tables of numbers written as text. A number has its digits in base 32, the largest place first;
the last digit is from a second alphabet, so that no mark between numbers is needed.
-/

namespace FleetSearch.Unicode

def digit (c : Char) : Nat × Bool :=
  if 'a' <= c && c <= 'z' then (c.toNat - 97, false)
  else if 'A' <= c && c <= 'Z' then (c.toNat - 65, true)
  else if '0' <= c && c <= '5' then (c.toNat - 48 + 26, false)
  else if '6' <= c && c <= '9' then (c.toNat - 54 + 26, true)
  else if c = '+' then (30, true)
  else (31, true)

def numbersFrom : (acc : Nat) -> List Char -> List Nat
  | _, [] => []
  | acc, c :: rest =>
    let (value, ends) := digit c
    if ends then (32 * acc + value) :: numbersFrom 0 rest
    else numbersFrom (32 * acc + value) rest

def numbers (text : List Char) : List Nat :=
  numbersFrom 0 text

def runs : List Nat -> (first : Nat) -> List (Nat × Nat × Nat)
  | size :: value :: rest, first => (first, first + size, value) :: runs rest (first + size + 1)
  | _, _ => []

def spacedRuns : List Nat -> (first : Nat) -> List (Nat × Nat × Nat)
  | gap :: size :: value :: rest, first =>
    (first + gap, first + gap + size, value) :: spacedRuns rest (first + gap + size + 1)
  | _, _ => []

def gapped : List Nat -> (first : Nat) -> List (Nat × Nat)
  | gap :: size :: rest, first =>
    (first + gap, first + gap + size) :: gapped rest (first + gap + size + 1)
  | _, _ => []

def CharSet.ofText (text : String) : CharSet :=
  { ranges := gapped (numbers text.toList) 0 }

example : numbers "BaCaaD5-".toList = [1, 2, 3, 1023] := by decide +kernel

end FleetSearch.Unicode
