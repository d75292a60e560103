import FleetSearch.Decimal.Shortest
import FleetSearch.Text.Printable

set_option autoImplicit false

namespace FleetSearch.Json

open FleetSearch.Decimal

inductive Number where
  | count (n : Nat)
  -- the number `-n` of a nonzero `n`
  | negative (n : Nat)
  | real (minus : Bool) (size : Binary)
deriving DecidableEq

inductive Found where
  | null
  | bool (b : Bool)
  | number (n : Number)
  | text (s : String)
  | list
  | object
deriving DecidableEq

inductive Cause where
  | endInValue
  | endInList
  | endInObject
  | endInText
  | colonExpected
  | listGoesOn
  | objectGoesOn
  | wordExpected
  | valueExpected
  | badEscape
  | badNumber
  | numberTooLarge
  | controlCharacter
  | keyIsNoText
  | loneSurrogate
  | shortEscape
  | trailingComma
  | trailingCharacters
  | wrongType (found : Found) (expected : String)
  | wrongValue (found : Found) (expected : String)
  | missing (field : String)
  | repeated (field : String)
  | tooShort (length : Nat) (expected : String)
deriving DecidableEq

structure Fault where
  cause : Cause
  offset : Nat
deriving DecidableEq

def Found.describe : Found -> String
  | .null => "null"
  | .bool true => "boolean `true`"
  | .bool false => "boolean `false`"
  | .number (.count n) => "integer `" ++ toString n ++ "`"
  | .number (.negative n) => "integer `-" ++ toString n ++ "`"
  | .number (.real minus size) =>
    "floating point `" ++ (if minus then "-" else "") ++ size.text ++ "`"
  | .text s => "string " ++ Text.printable s
  | .list => "sequence"
  | .object => "map"

def Cause.message : Cause -> String
  | .endInValue => "EOF while parsing a value"
  | .endInList => "EOF while parsing a list"
  | .endInObject => "EOF while parsing an object"
  | .endInText => "EOF while parsing a string"
  | .colonExpected => "expected `:`"
  | .listGoesOn => "expected `,` or `]`"
  | .objectGoesOn => "expected `,` or `\x7d`"
  | .wordExpected => "expected ident"
  | .valueExpected => "expected value"
  | .badEscape => "invalid escape"
  | .badNumber => "invalid number"
  | .numberTooLarge => "number out of range"
  | .controlCharacter => "control character (\\u0000-\\u001F) found while parsing a string"
  | .keyIsNoText => "key must be a string"
  | .loneSurrogate => "lone leading surrogate in hex escape"
  | .shortEscape => "unexpected end of hex escape"
  | .trailingComma => "trailing comma"
  | .trailingCharacters => "trailing characters"
  | .wrongType found expected => "invalid type: " ++ found.describe ++ ", expected " ++ expected
  | .wrongValue found expected => "invalid value: " ++ found.describe ++ ", expected " ++ expected
  | .missing field => "missing field `" ++ field ++ "`"
  | .repeated field => "duplicate field `" ++ field ++ "`"
  | .tooShort length expected =>
    "invalid length " ++ toString length ++ ", expected " ++ expected

def position (text : List Char) (offset : Nat) : Nat × Nat :=
  go text 0 1 0
where
  go : List Char -> (seen line start : Nat) -> Nat × Nat
  | [], _, line, start => (line, offset - start)
  | c :: rest, seen, line, start =>
    if offset <= seen then (line, offset - start)
    else
      let next := seen + c.utf8Size
      if c = '\n' then go rest next (line + 1) next else go rest next line start

def Fault.message (f : Fault) (text : String) : String :=
  let (line, column) := position text.toList f.offset
  f.cause.message ++ " at line " ++ toString line ++ " column " ++ toString column

end FleetSearch.Json
