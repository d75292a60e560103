import FleetSearch.Pattern.Basic
import FleetSearch.Search.Result
import FleetSearch.Text.Count
import FleetSearch.Text.Lines

set_option autoImplicit false

namespace FleetSearch.Checkout

open FleetSearch.Search FleetSearch.Text

-- The end of the lines around a match is counted in a word.
inductive GrepFault where
  | contextTooLong
deriving DecidableEq

-- What is told of the task that counted, by the number that the runtime gave it.
def GrepFault.message (task : Nat) : GrepFault -> String
  | .contextTooLong =>
    "task " ++ toString task ++ " panicked with message \"attempt to add with overflow\""

-- `before` holds the lines that were passed, nearest first, and `number` counts the next line.
def grepFrom (p : Pattern) (context : Nat) :
    (before : List (List Char)) -> (number : Nat) -> List (List Char) ->
    Except GrepFault (List LineMatch)
  | _, _, [] => .ok []
  | before, number, line :: rest =>
    if p.occursIn line then
      if Count.bound <= number + context then .error .contextTooLong
      else do
        let first : LineMatch :=
          { line := String.ofList line
            number
            before := (before.take context).reverse.map String.ofList
            after := (rest.take context).map String.ofList }
        return first :: (<- grepFrom p context (line :: before) (number + 1) rest)
    else grepFrom p context (line :: before) (number + 1) rest

def grep (p : Pattern) (context : Nat) (text : List Char) : Except GrepFault (List LineMatch) :=
  grepFrom p context [] 1 (lines text)

end FleetSearch.Checkout
