import FleetSearch.Disk.Path
import FleetSearch.Git.Object
import FleetSearch.Text.Lines

set_option autoImplicit false

namespace FleetSearch.Git

inductive Ref where
  | direct (id : Id)
  | symbolic (target : String)
  -- what is written is no reference
  | broken
deriving DecidableEq, Inhabited

namespace Ref

def symbolicWord : List Char := "ref: ".toList

def isSpace (c : Char) : Bool :=
  c = ' ' || ('\t' <= c && c <= '\r')

def dropSpaceEnd (s : List Char) : List Char :=
  (s.reverse.dropWhile isSpace).reverse

def read (text : List Char) : Ref :=
  if symbolicWord.isPrefixOf text then
    let target := (dropSpaceEnd text).drop symbolicWord.length
    if target.isEmpty then .broken else .symbolic (String.ofList target)
  else
    match takeId? text with
    | some (id, []) => .direct id
    | some (id, c :: _) => if isSpace c then .direct id else .broken
    | none => .broken

def write : Ref -> Option String
  | .direct id => some (id ++ "\n")
  | .symbolic target => some ("ref: " ++ target ++ "\n")
  | .broken => none

def readPackedLine (line : List Char) : Option (Option (String × Id)) :=
  match line with
  | '#' :: _ => some none
  | '^' :: rest => (takeId? rest).map fun _ => none
  | _ =>
    match takeId? line with
    | some (id, ' ' :: name) => some (some (String.ofList name, id))
    | _ => none

def readPacked (text : List Char) : Option (List (String × Id)) :=
  ((Text.lines text).mapM readPackedLine).map fun found => found.filterMap id

def isPlain (c : Char) : Bool :=
  32 < c.toNat && c.toNat != 127 && (['~', '^', ':', '\\', '?', '[', '*'].all fun d => c != d)

def hasDotDot : List Char -> Bool
  | '.' :: '.' :: _ => true
  | '@' :: '\x7b' :: _ => true
  | _ :: rest => hasDotDot rest
  | [] => false

def isSegment (s : List Char) : Bool :=
  !s.isEmpty && s.all isPlain && s.head? != some '.' && !hasDotDot s
    && !".lock".toList.isSuffixOf s

def isCapital (s : List Char) : Bool :=
  s.all fun c => c.isUpper || c = '_'

def isName (name : String) : Bool :=
  let segments := Disk.Path.pieces name.toList
  segments.all isSegment && name.toList.getLast? != some '.'
    && (match segments with
      | [one] => isCapital one
      | first :: _ => !isCapital first
      | [] => false)

end Ref

end FleetSearch.Git
