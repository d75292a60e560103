import FleetSearch.Pattern.Meaning
import FleetSearch.Pattern.Reader
import FleetSearch.Pattern.Weight

set_option autoImplicit false

/-!
Patterns that are ready to be searched for. All of the syntax is read, with the characters of
Unicode 16. A search tells whether a pattern occurs in a text and not where, so groups keep nothing
and greed makes no difference.
-/

namespace FleetSearch

structure Pattern where
  expr : Pattern.Expr
deriving DecidableEq, Inhabited

namespace Pattern

inductive Refusal where
  | wrong (pattern : String) (fault : Fault)
  | tooLarge
deriving DecidableEq

def Refusal.message : Refusal -> String
  | .wrong pattern fault => fault.text pattern
  | .tooLarge =>
    "Compiled regex exceeds size limit of " ++ toString Weight.limit ++ " bytes."

def exprOf (text : String) (ignoreCase : Bool) : Except Fault Expr := do
  let tree <- Tree.read text
  tree.meaning ignoreCase

def compile (text : String) (ignoreCase : Bool := false) : Except Refusal Pattern :=
  match exprOf text ignoreCase with
  | .error fault => .error (.wrong text fault)
  | .ok expr => if Weight.isTooMuch expr then .error .tooLarge else .ok { expr }

def occursIn (p : Pattern) (text : List Char) : Bool :=
  p.expr.occursIn text

def escaped (text : List Char) : List Char :=
  text.flatMap fun c => if Read.isMeta c then ['\\', c] else [c]

def exactly (text : List Char) : List Char :=
  '^' :: escaped text ++ ['$']

def oneOf (texts : List (List Char)) : List Char :=
  ['|'].intercalate (texts.map exactly)

end Pattern

end FleetSearch
