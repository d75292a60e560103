import FleetSearch.Text.Lines

set_option autoImplicit false

/-!
What can be wrong with a pattern, where, and how that is shown below the pattern.
-/

namespace FleetSearch.Pattern

structure Place where
  index : Nat := 0
  line : Nat := 1
  column : Nat := 1
deriving DecidableEq, Inhabited

structure Span where
  start : Place
  stop : Place
deriving DecidableEq, Inhabited

def Place.next (p : Place) (c : Char) : Place :=
  if c = '\n' then { index := p.index + 1, line := p.line + 1, column := 1 }
  else { p with index := p.index + 1, column := p.column + 1 }

def Place.span (p : Place) : Span := { start := p, stop := p }

inductive Cause where
  | classEscape
  | classRange
  | classBoundary
  | classUnclosed
  | countEmpty
  | countTooLarge
  | hexEmpty
  | hexNoCharacter
  | hexDigit
  | escapeEnd
  | escapeUnknown
  | flagDangling
  | flagRepeated
  | flagNegatedTwice
  | flagEnd
  | flagUnknown
  | nameRepeated
  | nameEmpty
  | nameCharacter
  | nameEnd
  | groupUnclosed
  | groupUnopened
  | nestedTooDeep (limit : Nat)
  | repetitionRange
  | repetitionCount
  | repetitionUnclosed
  | repetitionOfNothing
  | wordEdgeUnclosed
  | wordEdgeUnknown
  | wordEdgeEnd
  | propertyLetter
  | backreference
  | lookAround
  | unicodeNotAllowed
  | invalidText
  | propertyUnknown
  | propertyValueUnknown
deriving DecidableEq

def Cause.message : Cause -> String
  | .classEscape => "invalid escape sequence found in character class"
  | .classRange => "invalid character class range, the start must be <= the end"
  | .classBoundary => "invalid range boundary, must be a literal"
  | .classUnclosed => "unclosed character class"
  | .countEmpty => "decimal literal empty"
  | .countTooLarge => "decimal literal invalid"
  | .hexEmpty => "hexadecimal literal empty"
  | .hexNoCharacter => "hexadecimal literal is not a Unicode scalar value"
  | .hexDigit => "invalid hexadecimal digit"
  | .escapeEnd => "incomplete escape sequence, reached end of pattern prematurely"
  | .escapeUnknown => "unrecognized escape sequence"
  | .flagDangling => "dangling flag negation operator"
  | .flagRepeated => "duplicate flag"
  | .flagNegatedTwice => "flag negation operator repeated"
  | .flagEnd => "expected flag but got end of regex"
  | .flagUnknown => "unrecognized flag"
  | .nameRepeated => "duplicate capture group name"
  | .nameEmpty => "empty capture group name"
  | .nameCharacter => "invalid capture group character"
  | .nameEnd => "unclosed capture group name"
  | .groupUnclosed => "unclosed group"
  | .groupUnopened => "unopened group"
  | .nestedTooDeep limit =>
    "exceed the maximum number of nested parentheses/brackets (" ++ toString limit ++ ")"
  | .repetitionRange => "invalid repetition count range, the start must be <= the end"
  | .repetitionCount => "repetition quantifier expects a valid decimal"
  | .repetitionUnclosed => "unclosed counted repetition"
  | .repetitionOfNothing => "repetition operator missing expression"
  | .wordEdgeUnclosed =>
    "special word boundary assertion is either unclosed or contains an invalid character"
  | .wordEdgeUnknown =>
    "unrecognized special word boundary assertion, "
      ++ "valid choices are: start, end, start-half or end-half"
  | .wordEdgeEnd =>
    "found either the beginning of a special word boundary or a bounded repetition "
      ++ "on a \\b with an opening brace, but no closing brace"
  | .propertyLetter => "invalid Unicode character class"
  | .backreference => "backreferences are not supported"
  | .lookAround => "look-around, including look-ahead and look-behind, is not supported"
  | .unicodeNotAllowed => "Unicode not allowed here"
  | .invalidText => "pattern can match invalid UTF-8"
  | .propertyUnknown => "Unicode property not found"
  | .propertyValueUnknown => "Unicode property value not found"

structure Fault where
  cause : Cause
  span : Span
  -- a second place that the fault is about
  other : Option Span := none
deriving DecidableEq

namespace Fault

def isOneLine (s : Span) : Bool :=
  s.start.line == s.stop.line

def comesBefore (a b : Span) : Bool :=
  a.start.index < b.start.index
    || (a.start.index == b.start.index && a.stop.index <= b.stop.index)

def spans (f : Fault) : List Span :=
  match f.other with
  | none => [f.span]
  | some other => if comesBefore f.span other then [f.span, other] else [other, f.span]

def repeated (c : Char) (n : Nat) : String :=
  String.ofList (List.replicate n c)

def carets : (column : Nat) -> List Span -> String
  | _, [] => ""
  | column, s :: rest =>
    let size := max 1 (s.stop.column - s.start.column)
    repeated ' ' (s.start.column - column) ++ repeated '^' size
      ++ carets (max column s.start.column + size) rest

def numberWidth (pattern : List Char) (lines : List (List Char)) : Nat :=
  let count := lines.length + (if pattern.getLast? == some '\n' then 1 else 0)
  if count <= 1 then 0 else (toString count).length

def margin (width number : Nat) : String :=
  if width = 0 then "    "
  else
    let digits := toString number
    repeated ' ' (width - digits.length) ++ digits ++ ": "

def marked (width : Nat) (spans : List Span) (number : Nat) (line : List Char) : String :=
  let here := spans.filter fun s => isOneLine s && s.start.line == number
  let marks :=
    if here.isEmpty then ""
    else repeated ' ' (if width = 0 then 4 else width + 2) ++ carets 1 here ++ "\n"
  margin width number ++ String.ofList line ++ "\n" ++ marks

def markedLines (width : Nat) (spans : List Span) : (number : Nat) -> List (List Char) -> String
  | _, [] => ""
  | number, line :: rest =>
    marked width spans number line ++ markedLines width spans (number + 1) rest

def longSpan (s : Span) : String :=
  String.join ["on line ", toString s.start.line, " (column ", toString s.start.column,
    ") through line ", toString s.stop.line, " (column ", toString (s.stop.column - 1), ")"]

def text (f : Fault) (pattern : String) : String :=
  let chars := pattern.toList
  let lines := Text.lines chars
  let shown := markedLines (numberWidth chars lines) f.spans 1 lines
  let rule := repeated '~' 79 ++ "\n"
  let long := f.spans.filter fun s => !isOneLine s
  let notes := if long.isEmpty then "" else "\n".intercalate (long.map longSpan) ++ "\n"
  let body := if chars.contains '\n' then rule ++ shown ++ rule ++ notes else shown
  "regex parse error:\n" ++ body ++ "error: " ++ f.cause.message

end Fault

end FleetSearch.Pattern
