import FleetSearch.Decimal.Binary

set_option autoImplicit false

/-!
The fewest decimal digits that read back as a given double precision number.
-/

namespace FleetSearch.Decimal

structure Digits where
  digits : Nat
  power : Int
deriving DecidableEq, Inhabited

namespace Shortest

-- The ends of the interval that rounds to `b`, and `b` itself, as multiples of one unit `num /
-- den`. The lower neighbour of a power of two is half as far away.
structure Interval where
  low : Nat
  mid : Nat
  high : Nat
  num : Nat
  den : Nat
  closed : Bool

def interval (b : Binary) : Interval :=
  let narrow :=
    b.mantissa = Nat.pow 2 (Binary.mantissaBits - 1) && Binary.leastExponent < b.exponent
  let unit := b.exponent - 2
  { low := 4 * b.mantissa - (if narrow then 1 else 2)
    mid := 4 * b.mantissa
    high := 4 * b.mantissa + 2
    num := if unit < 0 then 1 else Nat.pow 2 unit.toNat
    den := if unit < 0 then Nat.pow 2 (-unit).toNat else 1
    closed := b.mantissa % 2 = 0 }

def Interval.holds (i : Interval) (d : Nat) (power : Int) : Bool :=
  let up := if power < 0 then 1 else Nat.pow 10 power.toNat
  let down := if power < 0 then Nat.pow 10 (-power).toNat else 1
  let value := d * up * i.den
  let low := i.low * i.num * down
  let high := i.high * i.num * down
  if i.closed then low <= value && value <= high else low < value && value < high

def Interval.floor (i : Interval) (power : Int) : Nat × Nat × Nat :=
  let up := if power < 0 then 1 else Nat.pow 10 power.toNat
  let down := if power < 0 then Nat.pow 10 (-power).toNat else 1
  let num := i.mid * i.num * down
  let den := i.den * up
  (num / den, 2 * (num % den), den)

def onGrid (i : Interval) (power : Int) : Option Digits :=
  let (d, twice, den) := i.floor power
  let below := i.holds d power && d != 0
  let above := i.holds (d + 1) power
  let upper := twice > den || (twice == den && d % 2 == 1)
  if below && above then some { digits := if upper then d + 1 else d, power }
  else if below then some { digits := d, power }
  else if above then some { digits := d + 1, power }
  else none

def search (i : Interval) : (tries : Nat) -> (power : Int) -> Digits
  | 0, power => { digits := (i.floor power).1, power }
  | tries + 1, power =>
    match onGrid i power with
    | some d => d
    | none => search i tries (power - 1)

def strip : (fuel : Nat) -> Digits -> Digits
  | 0, d => d
  | fuel + 1, d =>
    if d.digits != 0 && d.digits % 10 == 0 then
      strip fuel { digits := d.digits / 10, power := d.power + 1 }
    else d

end Shortest

def shortest (b : Binary) : Digits :=
  if b.mantissa = 0 then { digits := 0, power := 0 }
  else Shortest.strip 20 (Shortest.search (Shortest.interval b) 700 310)

-- The number in plain notation while its point lies within 16 places right of the first digit or
-- five left of it, else with an exponent of a sign and at least two digits.
def Binary.text (b : Binary) : String :=
  let d := shortest b
  let digits := toString d.digits
  let point : Int := digits.length + d.power
  if b.mantissa = 0 then "0.0"
  else if 0 <= d.power && point <= 16 then
    digits ++ String.ofList (List.replicate d.power.toNat '0') ++ ".0"
  else if 0 < point && point <= 16 then
    let cs := digits.toList
    String.ofList (cs.take point.toNat) ++ "." ++ String.ofList (cs.drop point.toNat)
  else if -5 < point && point <= 0 then
    "0." ++ String.ofList (List.replicate (-point).toNat '0') ++ digits
  else
    let exponent := point - 1
    let size := toString exponent.natAbs
    let size := if size.length < 2 then "0" ++ size else size
    let sign := if exponent < 0 then "-" else "+"
    let cs := digits.toList
    let tail := if cs.length = 1 then "" else "." ++ String.ofList (cs.drop 1)
    String.ofList (cs.take 1) ++ tail ++ "e" ++ sign ++ size

end FleetSearch.Decimal
