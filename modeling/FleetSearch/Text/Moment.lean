set_option autoImplicit false

/-!
Moments as texts, in universal time: the date, the time of day and the fraction of a second in
three, six or nine digits if there is one.
-/

namespace FleetSearch.Text

def locate : (lengths : List Nat) -> (place : Nat) -> Nat × Nat
  | [], place => (0, place)
  | length :: rest, place =>
    if place < length then (0, place)
    else ((locate rest (place - length)).1 + 1, (locate rest (place - length)).2)

structure Date where
  year : Nat
  month : Nat
  day : Nat
deriving DecidableEq

namespace Date

def isLeap (year : Nat) : Bool :=
  year % 4 = 0 && (year % 100 ≠ 0 || year % 400 = 0)

def monthLengths (year : Nat) : List Nat :=
  [31, if isLeap year then 29 else 28, 31, 30, 31, 30, 31, 31, 30, 31, 30, 31]

def yearLength (year : Nat) : Nat :=
  if isLeap year then 366 else 365

def yearLengths (count : Nat) : List Nat :=
  (List.range count).map fun i => yearLength (1970 + i)

def ofDay (n : Nat) : Date :=
  let (years, rest) := locate (yearLengths (n / 365 + 1)) n
  let (months, days) := locate (monthLengths (1970 + years)) rest
  { year := 1970 + years, month := months + 1, day := days + 1 }

end Date

def padded (width n : Nat) : String :=
  let digits := toString n
  String.ofList (List.replicate (width - digits.length) '0') ++ digits

def Date.text (d : Date) : String :=
  (if d.year <= 9999 then padded 4 d.year else "+" ++ toString d.year)
    ++ "-" ++ padded 2 d.month ++ "-" ++ padded 2 d.day

def fraction (nanos : Nat) : String :=
  if nanos = 0 then ""
  else if nanos % 1000000 = 0 then "." ++ padded 3 (nanos / 1000000)
  else if nanos % 1000 = 0 then "." ++ padded 6 (nanos / 1000)
  else "." ++ padded 9 nanos

def momentText (moment : Nat) : String :=
  let seconds := moment / 1000000000
  let time := seconds % 86400
  (Date.ofDay (seconds / 86400)).text
    ++ "T" ++ padded 2 (time / 3600) ++ ":" ++ padded 2 (time / 60 % 60)
    ++ ":" ++ padded 2 (time % 60) ++ fraction (moment % 1000000000) ++ "Z"

end FleetSearch.Text
