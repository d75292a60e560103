import FleetSearch.Json.Fault
import FleetSearch.Text.Count

set_option autoImplicit false

/-!
Readers take what they want from the front of a text. A fault lies either where the reader stands
(`fail`) or behind the next byte, which it has seen but not taken (`failAhead`). A number that is no
count is skipped, or told of in a fault.
-/

namespace FleetSearch.Json

open FleetSearch.Decimal
open FleetSearch.Text (digitsValue)

structure Cursor where
  rest : List Char
  -- bytes taken so far
  offset : Nat
deriving DecidableEq, Inhabited

abbrev Reader := StateT Cursor (Except Fault)

def byteCount (s : List Char) : Nat :=
  s.foldl (fun n c => n + c.utf8Size) 0

namespace Reader

def failAt {A : Type} (offset : Nat) (cause : Cause) : Reader A :=
  throw { cause, offset }

def fail {A : Type} (cause : Cause) : Reader A := do
  failAt (<- get).offset cause

def failAhead {A : Type} (cause : Cause) : Reader A := do
  let s <- get
  failAt (if s.rest.isEmpty then s.offset else s.offset + 1) cause

def failPast {A : Type} (before : Cursor) (cause : Cause) : Reader A :=
  failAt (before.offset + 1) cause

def peek : Reader (Option Char) := do
  return (<- get).rest.head?

def take : Reader (Option Char) := do
  let s <- get
  match s.rest with
  | [] => return none
  | c :: rest =>
    set { rest, offset := s.offset + c.utf8Size : Cursor }
    return some c

def skip : Reader Unit := do
  let _ <- take

def isSpace (c : Char) : Bool :=
  c = ' ' || c = '\n' || c = '\t' || c = '\r'

def next : Reader (Option Char) := do
  let s <- get
  let blanks := s.rest.takeWhile isSpace
  set { rest := s.rest.dropWhile isSpace, offset := s.offset + blanks.length : Cursor }
  peek

def isDigit (c : Option Char) : Bool :=
  c.any Char.isDigit

def digits : Reader (List Char) := do
  let s <- get
  let ds := s.rest.takeWhile Char.isDigit
  set { rest := s.rest.dropWhile Char.isDigit, offset := s.offset + ds.length : Cursor }
  return ds

def word : List Char -> Reader Unit
  | [] => pure ()
  | expected :: more => do
    let before <- get
    match <- take with
    | none => fail .endInValue
    | some c => if c = expected then word more else failPast before .wordExpected

/- texts -/

def hexValue (c : Char) : Option Nat :=
  if '0' <= c && c <= '9' then some (c.toNat - 48)
  else if 'a' <= c && c <= 'f' then some (c.toNat - 87)
  else if 'A' <= c && c <= 'F' then some (c.toNat - 55)
  else none

def hexNumber (cs : List Char) : Option Nat :=
  cs.foldl (fun n c => n.bind fun n => (hexValue c).map fun d => 16 * n + d) (some 0)

-- Four hexadecimal digits. Fewer than four bytes left are an unfinished text.
def fourHex : Reader Nat := do
  let s <- get
  match s.rest, hexNumber (s.rest.take 4) with
  | _ :: _ :: _ :: _ :: rest, some n =>
    set { rest, offset := s.offset + 4 : Cursor }
    return n
  | rest, _ =>
    let left := byteCount rest
    if left < 4 then failAt (s.offset + left) .endInText
    else failAt (s.offset + 4) .badEscape

def expectMark (mark : Char) : Reader Unit := do
  let s <- get
  match s.rest with
  | [] => fail .endInText
  | c :: _ => if c = mark then skip else failPast s .shortEscape

def unicodeEscape : Reader Char := do
  let n <- fourHex
  if 0xDC00 <= n && n <= 0xDFFF then fail .loneSurrogate
  else if n < 0xD800 || 0xDBFF < n then return Char.ofNat n
  else
    expectMark '\\'
    expectMark 'u'
    let low <- fourHex
    if low < 0xDC00 || 0xDFFF < low then fail .loneSurrogate
    else return Char.ofNat ((n - 0xD800) * 0x400 + (low - 0xDC00) + 0x10000)

def escapeOf : Char -> Option Char
  | '"' => some '"'
  | '\\' => some '\\'
  | '/' => some '/'
  | 'b' => some '\x08'
  | 'f' => some '\x0c'
  | 'n' => some '\n'
  | 'r' => some '\r'
  | 't' => some '\t'
  | _ => none

def escape : Reader Char := do
  let before <- get
  match <- take with
  | none => fail .endInText
  | some 'u' => unicodeEscape
  | some c =>
    match escapeOf c with
    | some r => return r
    | none => failPast before .badEscape

def textFrom : (fuel : Nat) -> (acc : List Char) -> Reader String
  | 0, _ => fail .endInText
  | fuel + 1, acc => do
    let before <- get
    match <- take with
    | none => fail .endInText
    | some '"' => return String.ofList acc.reverse
    | some '\\' => textFrom fuel ((<- escape) :: acc)
    | some c => if c.toNat < 32 then failPast before .controlCharacter else textFrom fuel (c :: acc)

def text : Reader String := do
  textFrom ((<- get).rest.length + 1) []

-- Like `textFrom`, but the halves of a character may stand alone.
def skipTextFrom : (fuel : Nat) -> Reader Unit
  | 0 => fail .endInText
  | fuel + 1 => do
    let before <- get
    match <- take with
    | none => fail .endInText
    | some '"' => return
    | some '\\' =>
      let before <- get
      match <- take with
      | none => fail .endInText
      | some 'u' =>
        let _ <- fourHex
        skipTextFrom fuel
      | some c => if (escapeOf c).isSome then skipTextFrom fuel else failPast before .badEscape
    | some c => if c.toNat < 32 then failAt before.offset .controlCharacter else skipTextFrom fuel

def skipText : Reader Unit := do
  skipTextFrom ((<- get).rest.length + 1)

/- numbers -/

def wordBound : Nat := Nat.pow 2 64

def wordDigits : (fuel : Nat) -> (acc : Nat) -> Reader Nat
  | 0, acc => return acc
  | fuel + 1, acc => do
    match <- peek with
    | some c =>
      let value := 10 * acc + (c.toNat - 48)
      if c.isDigit && value < wordBound then
        skip
        wordDigits fuel value
      else return acc
    | none => return acc

def power (n : Nat) : Binary :=
  ((Binary.round (Nat.pow 10 n) 1).getD .zero)

-- `f * 10 ^ exponent`, by one rounded multiplication, or by one division after as many by the
-- largest power as needed.
def scale : (fuel : Nat) -> (f : Binary) -> (exponent : Int) -> Option Binary
  | 0, _, _ => some .zero
  | fuel + 1, f, exponent =>
    if exponent.natAbs <= 308 then
      if 0 <= exponent then f.mul (power exponent.natAbs) else f.div (power exponent.natAbs)
    else if f.mantissa = 0 then some f
    else if 0 <= exponent then none
    else (f.div (power 308)).bind fun f => scale fuel f (exponent + 308)

def real (minus : Bool) (significand : Nat) (exponent : Int) : Reader Number := do
  match (Binary.ofNat significand).bind fun f => scale (exponent.natAbs / 308 + 2) f exponent with
  | some size => return .real minus size
  | none => fail .numberTooLarge

def exponentBound : Nat := Nat.pow 2 31

def fitting (ds : List Char) : Nat :=
  ((List.range ds.length).filter fun n => digitsValue (ds.take (n + 1)) < exponentBound).length

def exponentPart (minus : Bool) (significand : Nat) (start : Int) : Reader Number := do
  skip
  let up <- match <- peek with
    | some '+' => do skip; pure true
    | some '-' => do skip; pure false
    | _ => pure true
  let before <- get
  match <- peek with
  | none => fail .endInValue
  | some c =>
    if !c.isDigit then failPast before .badNumber
    else
      let ds <- digits
      let value := digitsValue ds
      if exponentBound <= value then
        if significand != 0 && up then
          failAt (before.offset + fitting ds + 1) .numberTooLarge
        else return .real minus .zero
      else real minus significand (if up then start + value else start - value)

-- The part from the point on. Digits that a word has no room for are skipped.
def fractionPart (minus : Bool) (significand : Nat) (start : Int) : Reader Number := do
  skip
  let before <- get
  let value <- wordDigits before.rest.length significand
  let taken := (<- get).offset - before.offset
  let more <- digits
  if taken = 0 && more.isEmpty then
    match <- peek with
    | none => fail .endInValue
    | some _ => failAhead .badNumber
  else
    match <- peek with
    | some 'e' | some 'E' => exponentPart minus value (start - taken)
    | _ => real minus value (start - taken)

def number (minus : Bool) : Reader Number := do
  let before <- get
  match <- take with
  | none => fail .endInValue
  | some c =>
    if !c.isDigit then failPast before .badNumber
    else
      if c = '0' && isDigit (<- peek) then failAhead .badNumber
      let value <- wordDigits (<- get).rest.length (c.toNat - 48)
      let dropped <- digits
      match <- peek with
      | some '.' => fractionPart minus value dropped.length
      | some 'e' | some 'E' => exponentPart minus value dropped.length
      | _ =>
        if !dropped.isEmpty then real minus value dropped.length
        else if !minus then return .count value
        else if value = 0 || Nat.pow 2 63 < value then real true value 0
        else return .negative value

def skipExponent : Reader Unit := do
  skip
  match <- peek with
  | some '+' | some '-' => skip
  | _ => pure ()
  let before <- get
  if !isDigit (<- peek) then
    match <- peek with
    | none => fail .badNumber
    | some _ => failPast before .badNumber
  let _ <- digits

def skipFraction : Reader Unit := do
  skip
  let ds <- digits
  if ds.isEmpty then failAhead .badNumber
  match <- peek with
  | some 'e' | some 'E' => skipExponent
  | _ => pure ()

def skipNumber : Reader Unit := do
  let before <- get
  match <- take with
  | none => fail .badNumber
  | some c =>
    if !c.isDigit then failPast before .badNumber
    if c = '0' && isDigit (<- peek) then failAhead .badNumber
    let _ <- digits
    match <- peek with
    | some '.' => skipFraction
    | some 'e' | some 'E' => skipExponent
    | _ => pure ()

/- values that nobody asked for -/

mutual

def skipValueFrom : (fuel : Nat) -> Reader Unit
  | 0 => fail .endInValue
  | fuel + 1 => do
    match <- next with
    | none => failAhead .endInValue
    | some 'n' => do skip; word "ull".toList
    | some 't' => do skip; word "rue".toList
    | some 'f' => do skip; word "alse".toList
    | some '-' => do skip; skipNumber
    | some '"' => do skip; skipText
    | some '[' => do
      skip
      match <- next with
      | none => failAhead .endInList
      | some ']' => skip
      | some _ => skipItems fuel
    | some '{' => do
      skip
      match <- next with
      | none => failAhead .endInObject
      | some '\x7d' => skip
      | some _ => skipMembers fuel
    | some c => if c.isDigit then skipNumber else failAhead .valueExpected

def skipItems : (fuel : Nat) -> Reader Unit
  | 0 => fail .endInList
  | fuel + 1 => do
    skipValueFrom fuel
    match <- next with
    | none => failAhead .endInList
    | some ',' => do skip; skipItems fuel
    | some ']' => skip
    | some _ => failAhead .listGoesOn

def skipMembers : (fuel : Nat) -> Reader Unit
  | 0 => fail .endInObject
  | fuel + 1 => do
    match <- next with
    | none => failAhead .endInObject
    | some '"' => skip
    | some _ => failAhead .keyIsNoText
    skipText
    match <- next with
    | none => failAhead .endInObject
    | some ':' => skip
    | some _ => failAhead .colonExpected
    skipValueFrom fuel
    match <- next with
    | none => failAhead .endInObject
    | some ',' => do skip; skipMembers fuel
    | some '\x7d' => skip
    | some _ => failAhead .objectGoesOn

end

def skipValue : Reader Unit := do
  skipValueFrom (2 * (<- get).rest.length + 2)

end Reader

end FleetSearch.Json
