import FleetSearch.Json.Reader

set_option autoImplicit false

/-!
Readers of values of a known shape. A record is read from an object, whose members come in any
order, or from a list, whose items come in the order of the fields.
-/

namespace FleetSearch.Json

namespace Reader

def found : Reader (Option Found) := do
  match <- peek with
  | some 'n' => do skip; word "ull".toList; return some .null
  | some 't' => do skip; word "rue".toList; return some (.bool true)
  | some 'f' => do skip; word "alse".toList; return some (.bool false)
  | some '-' => do skip; return some (.number (<- number true))
  | some '"' => do skip; return some (.text (<- text))
  | some '[' => return some .list
  | some '{' => return some .object
  | some c => if c.isDigit then return some (.number (<- number false)) else return none
  | none => return none

def wrongType {A : Type} (expected : String) : Reader A := do
  match <- found with
  | some f => fail (.wrongType f expected)
  | none => failAhead .valueExpected

def value {A : Type} (read : Char -> Reader A) : Reader A := do
  match <- next with
  | none => failAhead .endInValue
  | some c => read c

def string (expected : String) : Reader String :=
  value fun c =>
    match c with
    | '"' => do skip; text
    | _ => wrongType expected

def bool : Reader Bool :=
  value fun c =>
    match c with
    | 't' => do skip; word "rue".toList; return true
    | 'f' => do skip; word "alse".toList; return false
    | _ => wrongType "a boolean"

def count (expected : String) : Reader Nat :=
  value fun c => do
    if c != '-' && !c.isDigit then wrongType expected
    else
      if c = '-' then skip
      match <- number (c = '-') with
      | .count n => return n
      | .negative n => fail (.wrongValue (.number (.negative n)) expected)
      | .real minus size => fail (.wrongType (.number (.real minus size)) expected)

def optional {A : Type} (read : Reader A) : Reader (Option A) := do
  match <- next with
  | some 'n' => do skip; word "ull".toList; return none
  | _ => return some (<- read)

def moreItems (first : Bool) : Reader Bool := do
  match <- next with
  | none => failAhead .endInList
  | some ']' => return false
  | some ',' =>
    if first then return true
    else
      skip
      match <- next with
      | none => failAhead .endInValue
      | some ']' => failAhead .trailingComma
      | some _ => return true
  | some _ => if first then return true else failAhead .listGoesOn

def endList : Reader Unit := do
  match <- next with
  | none => failAhead .endInList
  | some ']' => skip
  | some ',' =>
    skip
    match <- next with
    | some ']' => failAhead .trailingComma
    | _ => failAhead .trailingCharacters
  | some _ => failAhead .trailingCharacters

def itemsFrom {A : Type} (read : Reader A) : (fuel : Nat) -> (first : Bool) -> Reader (List A)
  | 0, _ => fail .endInList
  | fuel + 1, first => do
    if <- moreItems first then
      let item <- read
      return item :: (<- itemsFrom read fuel false)
    else return []

def list {A : Type} (read : Reader A) : Reader (List A) :=
  value fun c => do
    if c != '[' then wrongType "a sequence"
    else
      skip
      let items <- itemsFrom read ((<- get).rest.length + 1) true
      endList
      return items

end Reader

structure Field (A : Type) where
  key : String
  required : Bool
  read : A -> Reader A

def known {A B : Type} (key : String) (read : Reader B) (put : A -> B -> A) : Field A :=
  { key, required := false, read := fun a => do return put a (<- read) }

def needed {A B : Type} (key : String) (read : Reader B) (put : A -> B -> A) : Field A :=
  { known key read put with required := true }

structure Shape (A : Type) where
  name : String
  start : A
  fields : List (Field A)

namespace Shape

variable {A : Type}

open Reader

def moreMembers (first : Bool) : Reader Bool := do
  match <- next with
  | none => failAhead .endInObject
  | some '\x7d' => return false
  | some '"' => if first then return true else failAhead .objectGoesOn
  | some c =>
    if first then failAhead .keyIsNoText
    else if c != ',' then failAhead .objectGoesOn
    else
      skip
      match <- next with
      | none => failAhead .endInValue
      | some '"' => return true
      | some '\x7d' => failAhead .trailingComma
      | some _ => failAhead .keyIsNoText

def colon : Reader Unit := do
  match <- next with
  | none => failAhead .endInObject
  | some ':' => skip
  | some _ => failAhead .colonExpected

-- A fault of the record as a whole lies behind its end, if that is what comes next.
def failRecord {B : Type} (close : Char) (cause : Cause) : Reader B := do
  match <- next with
  | some c => if c = close then failAhead cause else fail cause
  | none => fail cause

def membersFrom (shape : Shape A) :
    (fuel : Nat) -> (first : Bool) -> (seen : List String) -> A -> Reader A
  | 0, _, _, _ => fail .endInObject
  | fuel + 1, first, seen, a => do
    if <- moreMembers first then
      skip
      let key <- text
      match shape.fields.find? fun f => f.key = key with
      | some f =>
        if seen.contains key then failRecord '\x7d' (.repeated key)
        colon
        membersFrom shape fuel false (key :: seen) (<- f.read a)
      | none =>
        colon
        skipValue
        membersFrom shape fuel false seen a
    else
      match shape.fields.find? fun f => f.required && !seen.contains f.key with
      | some f => failRecord '\x7d' (.missing f.key)
      | none => do
        skip
        return a

def itemsOf (shape : Shape A) : (place : Nat) -> List (Field A) -> A -> Reader A
  | _, [], a => return a
  | place, f :: rest, a => do
    if <- moreItems (place = 0) then
      itemsOf shape (place + 1) rest (<- f.read a)
    else if f.required then
      failRecord ']' (.tooShort place
        ("struct " ++ shape.name ++ " with " ++ toString shape.fields.length ++ " elements"))
    else itemsOf shape (place + 1) rest a

def read (shape : Shape A) : Reader A :=
  value fun c => do
    match c with
    | '{' => do
      skip
      membersFrom shape ((<- get).rest.length + 1) true [] shape.start
    | '[' => do
      skip
      let a <- itemsOf shape 0 shape.fields shape.start
      endList
      return a
    | _ => wrongType ("struct " ++ shape.name)

end Shape

def Reader.ended {A : Type} (read : Reader A) : Reader A := do
  let a <- read
  match <- Reader.next with
  | none => return a
  | some _ => Reader.failAhead .trailingCharacters

def Reader.whole {A : Type} (read : Reader A) (text : String) : Except Fault A :=
  read.ended.run' { rest := text.toList, offset := 0 }

end FleetSearch.Json
