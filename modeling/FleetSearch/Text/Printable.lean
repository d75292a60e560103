import FleetSearch.Unicode.Category
import FleetSearch.Unicode.Property

set_option autoImplicit false

/-!
Text between quotes with all that is not visible spelled out, as messages show it.
-/

namespace FleetSearch.Text

open FleetSearch.Unicode

def invisible : CharSet :=
  (withCategory ["Cc", "Cf", "Cs", "Co", "Cn", "Zl", "Zp", "Zs"]).union
    (CharSet.ofText Ranges.pGraphemeExtend)

def hexDigits (n : Nat) : List Char :=
  Nat.toDigits 16 n

def shown (c : Char) : List Char :=
  match c with
  | '\x00' => ['\\', '0']
  | '\t' => ['\\', 't']
  | '\r' => ['\\', 'r']
  | '\n' => ['\\', 'n']
  | '"' => ['\\', '"']
  | '\\' => ['\\', '\\']
  | c =>
    if c = ' ' || !invisible.contains c then [c]
    else ['\\', 'u', '\x7b'] ++ hexDigits c.toNat ++ ['\x7d']

def printable (s : String) : String :=
  String.ofList ('"' :: s.toList.flatMap shown ++ ['"'])

end FleetSearch.Text
