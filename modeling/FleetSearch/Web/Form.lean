import FleetSearch.Text.Utf8

set_option autoImplicit false

namespace FleetSearch.Web.Form

def split (separator : UInt8) (bytes : List UInt8) : List (List UInt8) :=
  match bytes with
  | [] => [[]]
  | b :: rest =>
    match split separator rest with
    | [] => [[b]]
    | piece :: more => if b = separator then [] :: piece :: more else (b :: piece) :: more

def hexValue? (b : UInt8) : Option UInt8 :=
  if 48 <= b && b <= 57 then some (b - 48)
  else if 65 <= b && b <= 70 then some (b - 55)
  else if 97 <= b && b <= 102 then some (b - 87)
  else none

def plain : List UInt8 -> List UInt8
  | 37 :: high :: low :: rest =>
    match hexValue? high, hexValue? low with
    | some h, some l => (16 * h + l) :: plain rest
    | _, _ => 37 :: plain (high :: low :: rest)
  | b :: rest => (if b = 43 then 32 else b) :: plain rest
  | [] => []

def pair (piece : List UInt8) : String × String :=
  let (key, value) := piece.span (· != 61)
  (Text.Utf8.decode (plain key), Text.Utf8.decode (plain (value.drop 1)))

def pairs (text : String) : List (String × String) :=
  ((split 38 text.toUTF8.toList).filter fun piece => !piece.isEmpty).map pair

def only? (pairs : List (String × String)) (key : String) : Option String :=
  match pairs.filter fun p => p.1 == key with
  | [] => some ""
  | [p] => some p.2
  | _ => none

end FleetSearch.Web.Form
