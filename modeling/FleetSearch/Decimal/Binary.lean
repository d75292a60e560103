set_option autoImplicit false

/-!
Double precision numbers as exact values: a magnitude is `mantissa * 2 ^ exponent`, or beyond the
largest one. Each operation rounds its exact result to the nearest such value, a tie to the even
mantissa.
-/

namespace FleetSearch.Decimal

structure Binary where
  mantissa : Nat
  exponent : Int
deriving DecidableEq, Inhabited

namespace Binary

def mantissaBits : Nat := 53
def leastExponent : Int := -1074
def mostExponent : Int := 971

def zero : Binary := { mantissa := 0, exponent := leastExponent }

def nearest (num den : Nat) : Nat :=
  let q := num / den
  let r := num % den
  if 2 * r > den || (2 * r == den && q % 2 == 1) then q + 1 else q

def scaled (num den : Nat) (e : Int) : Nat × Nat :=
  if e < 0 then (num * Nat.pow 2 (-e).toNat, den) else (num, den * Nat.pow 2 e.toNat)

def exponentOf (num den : Nat) : Int :=
  let guess : Int := (Nat.log2 num : Int) - (Nat.log2 den : Int) - (mantissaBits : Int)
  let (n, d) := scaled num den guess
  let bits := Nat.log2 (n / d) + 1
  max leastExponent (guess + ((bits : Int) - (mantissaBits : Int)))

def round (num den : Nat) : Option Binary :=
  if num = 0 then some zero
  else
    let e := exponentOf num den
    let (n, d) := scaled num den e
    let m := nearest n d
    let (m, e) := if m = Nat.pow 2 mantissaBits then (m / 2, e + 1) else (m, e)
    if mostExponent < e then none else some { mantissa := m, exponent := e }

def ofNat (n : Nat) : Option Binary :=
  round n 1

def fraction (b : Binary) : Nat × Nat :=
  if b.exponent < 0 then (b.mantissa, Nat.pow 2 (-b.exponent).toNat)
  else (b.mantissa * Nat.pow 2 b.exponent.toNat, 1)

def mul (a b : Binary) : Option Binary :=
  round (a.fraction.1 * b.fraction.1) (a.fraction.2 * b.fraction.2)

def div (a b : Binary) : Option Binary :=
  round (a.fraction.1 * b.fraction.2) (a.fraction.2 * b.fraction.1)

end Binary

end FleetSearch.Decimal
