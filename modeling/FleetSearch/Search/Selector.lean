import FleetSearch.Pattern.Basic
import FleetSearch.Text.Blank

set_option autoImplicit false

namespace FleetSearch.Search

open FleetSearch.Text

def commaPieces (s : List Char) : List (List Char) :=
  match s with
  | [] => [[]]
  | ',' :: rest => [] :: commaPieces rest
  | c :: rest =>
    match commaPieces rest with
    | [] => [[c]]
    | first :: more => (c :: first) :: more

def commaNames (s : String) : List String :=
  (commaPieces s.toList).map fun piece => String.ofList (trim piece)

def selectsAll (s : String) : Bool :=
  s.isEmpty || s == "*"

-- The pattern that a selector stands for: a comma makes the text a list of names, and any other
-- text is a pattern.
def selectorPattern (text : String) : String :=
  let s := trimmed text
  if selectsAll s then ".*"
  else if s.toList.contains ',' then String.ofList (Pattern.oneOf ((commaNames s).map String.toList))
  else s

structure Selector where
  pattern : Pattern
deriving DecidableEq

namespace Selector

def read (text : String) : Except Pattern.Refusal Selector :=
  (Pattern.compile (selectorPattern text)).map Selector.mk

def accepts (s : Selector) (name : String) : Bool :=
  s.pattern.occursIn name.toList

def choose (s : Selector) (names : List String) : List Nat :=
  (names.zipIdx.filter fun e => s.accepts e.1).map (·.2)

end Selector

end FleetSearch.Search
