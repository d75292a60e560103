set_option autoImplicit false

/-!
Reading bytes as text where they need not be text: each part that is no character, as long as it
could still have become one, is read as a replacement character.
-/

namespace FleetSearch.Text.Utf8

def replacement : Char := '\uFFFD'

structure Pending where
  value : Nat
  -- how many bytes are missing, and where the next one has to lie
  missing : Nat
  low : Nat := 0x80
  high : Nat := 0xBF

def pending? (b : Nat) : Option Pending :=
  if 0xC2 <= b && b <= 0xDF then some { value := b - 0xC0, missing := 1 }
  else if b = 0xE0 then some { value := 0, missing := 2, low := 0xA0 }
  else if b = 0xED then some { value := 0xD, missing := 2, high := 0x9F }
  else if 0xE1 <= b && b <= 0xEF then some { value := b - 0xE0, missing := 2 }
  else if b = 0xF0 then some { value := 0, missing := 3, low := 0x90 }
  else if b = 0xF4 then some { value := 4, missing := 3, high := 0x8F }
  else if 0xF1 <= b && b <= 0xF3 then some { value := b - 0xF0, missing := 3 }
  else none

def first (b : Nat) : List Char × Option Pending :=
  if b < 0x80 then ([Char.ofNat b], none)
  else
    match pending? b with
    | some p => ([], some p)
    | none => ([replacement], none)

def next (p : Pending) (b : Nat) : List Char × Option Pending :=
  if p.low <= b && b <= p.high then
    let value := 64 * p.value + (b - 0x80)
    if p.missing = 1 then ([Char.ofNat value], none)
    else ([], some { value, missing := p.missing - 1 })
  else
    let (chars, p) := first b
    (replacement :: chars, p)

def decodeFrom : Option Pending -> List UInt8 -> List Char
  | none, [] => []
  | some _, [] => [replacement]
  | p, b :: rest =>
    let (chars, p) := match p with
      | none => first b.toNat
      | some p => next p b.toNat
    chars ++ decodeFrom p rest

def decode (bytes : List UInt8) : String :=
  String.ofList (decodeFrom none bytes)

end FleetSearch.Text.Utf8
