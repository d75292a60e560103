import FleetSearch.Text.Printable

set_option autoImplicit false

/-!
Paths with places that are left open. `{name}` stands for the rest of a segment and `{*name}` for
the rest of the path, neither of them empty; a brace that is meant is written twice.
-/

namespace FleetSearch.Web

inductive TemplateFault where
  | badName
  | twoInSegment
  | restNotLast
  | tooMany
deriving DecidableEq

def TemplateFault.message : TemplateFault -> String
  | .badName => "Parameters must be registered with a valid name"
  | .twoInSegment => "Only one parameter is allowed per path segment"
  | .restNotLast => "Catch-all parameters are only allowed at the end of a route"
  | .tooMany => "Too many route parameters."

inductive Piece where
  | char (c : Char)
  | segment
  | rest
deriving DecidableEq

abbrev Template := List Piece

namespace Template

structure Mark where
  char : Char
  -- a brace that is meant
  doubled : Bool := false
deriving DecidableEq

def marks : List Char -> List Mark
  | '{' :: '{' :: rest => { char := '{', doubled := true } :: marks rest
  | '}' :: '}' :: rest => { char := '}', doubled := true } :: marks rest
  | c :: rest => { char := c } :: marks rest
  | [] => []

def Mark.opens (m : Mark) : Bool := m.char == '{' && !m.doubled

def Mark.closes (m : Mark) : Bool := m.char == '}' && !m.doubled

inductive Mode where
  | plain
  | opened
  | name (star first : Bool)

def Mark.endsPlace (next : Option Mark) : Bool :=
  next.all fun m => m.char == '/'

def mostSegments : Nat := 25

-- The first fault from the left decides. There is `room` for so many open segments.
def piecesFrom : (room : Nat) -> Mode -> List Mark -> Except TemplateFault Template
  | _, .plain, [] => .ok []
  | _, _, [] => .error .badName
  | room, .plain, m :: more =>
    if m.closes then .error .badName
    else if m.opens then piecesFrom room .opened more
    else (piecesFrom room .plain more).map (.char m.char :: ·)
  | room, .opened, m :: more =>
    if m.char = '\x7d' then .error .badName else piecesFrom room (.name (m.char = '*') true) more
  | room, .name star first, m :: more =>
    if m.closes then
      if star && first then .error .badName
      else if !Mark.endsPlace more.head? then .error .twoInSegment
      else if star then (piecesFrom room .plain more).map (.rest :: ·)
      else if room = 0 then .error .tooMany
      else (piecesFrom (room - 1) .plain more).map (.segment :: ·)
    else if m.char = '*' || m.char = '/' then .error .badName
    else piecesFrom room (.name star false) more

def check : Template -> Except TemplateFault Unit
  | [] => .ok ()
  | .rest :: more => if more.isEmpty then .ok () else .error .restNotLast
  | _ :: more => check more

def read (text : String) : Except TemplateFault Template := do
  let t <- piecesFrom mostSegments .plain (marks text.toList)
  check t
  return t

def fits : Template -> List Char -> Bool
  | [], path => path.isEmpty
  | .char c :: more, d :: path => c == d && fits more path
  | .char _ :: _, [] => false
  | .segment :: more, path =>
    let taken := path.takeWhile (· != '/')
    !taken.isEmpty && fits more (path.drop taken.length)
  | .rest :: _, path => !path.isEmpty

end Template

end FleetSearch.Web
