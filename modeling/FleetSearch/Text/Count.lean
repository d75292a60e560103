set_option autoImplicit false

/-!
Counts: offsets, limits and sizes are unsigned and below 2^64.
-/

namespace FleetSearch.Text

def Count.bound : Nat := Nat.pow 2 64

def digitsValue (digits : List Char) : Nat :=
  digits.foldl (fun n c => 10 * n + (c.toNat - 48)) 0

def Count.parse? (s : List Char) : Option Nat :=
  let digits := match s with
    | '+' :: rest => rest
    | _ => s
  if digits.isEmpty || !digits.all Char.isDigit then none
  else
    let n := digitsValue digits
    if n < Count.bound then some n else none

end FleetSearch.Text
