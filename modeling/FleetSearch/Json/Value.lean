set_option autoImplicit false

/-!
Values as they are written, without blanks. Object members keep the order they are given in;
`Value.sorted` puts them in the order of their names. The only numbers are counts.
-/

namespace FleetSearch.Json

inductive Value where
  | null
  | bool (b : Bool)
  | count (n : Nat)
  | text (s : String)
  | list (items : List Value)
  | object (members : List (String × Value))
deriving Inhabited

def hexDigit (n : Nat) : Char :=
  Char.ofNat (if n < 10 then 48 + n else 87 + n)

def escaped (c : Char) : List Char :=
  match c with
  | '"' => ['\\', '"']
  | '\\' => ['\\', '\\']
  | '\n' => ['\\', 'n']
  | '\r' => ['\\', 'r']
  | '\t' => ['\\', 't']
  | '\x08' => ['\\', 'b']
  | '\x0c' => ['\\', 'f']
  | c =>
    if c.toNat < 32 then ['\\', 'u', '0', '0', hexDigit (c.toNat / 16), hexDigit (c.toNat % 16)]
    else [c]

def quoted (s : String) : List Char :=
  '"' :: s.toList.flatMap escaped ++ ['"']

mutual

def Value.chars : Value -> List Char
  | .null => "null".toList
  | .bool true => "true".toList
  | .bool false => "false".toList
  | .count n => (toString n).toList
  | .text s => quoted s
  | .list items => '[' :: itemChars true items ++ [']']
  | .object members => '{' :: memberChars true members ++ ['}']

def itemChars : (first : Bool) -> List Value -> List Char
  | _, [] => []
  | first, v :: rest => (if first then [] else [',']) ++ v.chars ++ itemChars false rest

def memberChars : (first : Bool) -> List (String × Value) -> List Char
  | _, [] => []
  | first, (key, v) :: rest =>
    (if first then [] else [',']) ++ quoted key ++ [':'] ++ v.chars ++ memberChars false rest

end

def Value.render (v : Value) : String :=
  String.ofList v.chars

def insertMember (key : String) (v : Value) : List (String × Value) -> List (String × Value)
  | [] => [(key, v)]
  | (k, w) :: rest =>
    if key < k then (key, v) :: (k, w) :: rest
    else if key = k then (key, v) :: rest
    else (k, w) :: insertMember key v rest

mutual

def Value.sorted : Value -> Value
  | .list items => .list (sortedItems items)
  | .object members => .object (sortedMembers members [])
  | v => v

def sortedItems : List Value -> List Value
  | [] => []
  | v :: rest => v.sorted :: sortedItems rest

def sortedMembers : (members acc : List (String × Value)) -> List (String × Value)
  | [], acc => acc
  | (key, v) :: rest, acc => sortedMembers rest (insertMember key v.sorted acc)

end

def Value.ofOption {A : Type} (f : A -> Value) : Option A -> Value
  | none => .null
  | some a => f a

end FleetSearch.Json
