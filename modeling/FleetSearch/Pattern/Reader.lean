import FleetSearch.Pattern.Tree
import FleetSearch.Text.Blank
import FleetSearch.Unicode.Category
import FleetSearch.Unicode.Property

set_option autoImplicit false

/-!
Reading patterns. What is wrong first, from the left, decides the fault; only what is nested too
deep is found after the whole pattern has been read.
-/

namespace FleetSearch.Pattern

structure Cursor where
  rest : List Char
  place : Place := {}
  -- blanks and comments are skipped
  verbose : Bool := false
  names : List (String × Span) := []

abbrev Read := StateT Cursor (Except Fault)

namespace Read

def fail {A : Type} (cause : Cause) (span : Span) (other : Option Span := none) : Read A :=
  fun _ => .error { cause, span, other }

def place : Read Place := return (<- get).place

def here : Read Span := return (<- get).place.span

def peek? : Read (Option Char) := return (<- get).rest.head?

def isEnd : Read Bool := return (<- get).rest.isEmpty

def isAt (c : Char) : Read Bool := return (<- get).rest.head? == some c

def charSpan : Read Span := do
  let cur <- get
  match cur.rest with
  | [] => return cur.place.span
  | c :: _ => return { start := cur.place, stop := cur.place.next c }

def since (start : Place) : Read Span :=
  return { start, stop := (<- get).place }

def Cursor.advance (cur : Cursor) : Cursor :=
  match cur.rest with
  | [] => cur
  | c :: rest => { cur with rest, place := cur.place.next c }

def bump : Read Bool := do
  modify Cursor.advance
  return !(<- isEnd)

def bumpIf (word : String) : Read Bool := do
  let cur <- get
  if word.toList.isPrefixOf cur.rest then
    set (word.toList.foldl (fun cur _ => Cursor.advance cur) cur)
    return true
  else return false

def pastBlanks : (inComment : Bool) -> Place -> List Char -> Place × List Char
  | _, p, [] => (p, [])
  | true, p, c :: rest => pastBlanks (c != '\n') (p.next c) rest
  | false, p, c :: rest =>
    if Text.isBlank c then pastBlanks false (p.next c) rest
    else if c = '#' then pastBlanks true (p.next c) rest
    else (p, c :: rest)

def skipBlanks : Read Unit := do
  let cur <- get
  if cur.verbose then
    let (place, rest) := pastBlanks false cur.place cur.rest
    set { cur with place, rest }

def bumpBlanks : Read Bool := do
  if <- bump then
    skipBlanks
    return !(<- isEnd)
  else return false

-- The character after the next one. In verbose patterns blanks are passed over, and one comment
-- mark.
def peekNext? : Read (Option Char) := do
  let cur <- get
  let after := cur.rest.tail
  if cur.verbose then
    let found := (after.dropWhile Text.isBlank)
    let found := match found with
      | '#' :: more => more.dropWhile Text.isBlank
      | _ => found
    return (if found.isEmpty then after else found).head?
  else return after.head?

def isDigit (c : Char) : Bool := '0' <= c && c <= '9'

def isHexDigit (c : Char) : Bool :=
  isDigit c || ('a' <= c && c <= 'f') || ('A' <= c && c <= 'F')

def hexValue (c : Char) : Nat :=
  if isDigit c then c.toNat - 48 else c.toLower.toNat - 87

def skipWhile (p : Char -> Bool) : (fuel : Nat) -> Read Unit
  | 0 => return
  | fuel + 1 => do
    match <- peek? with
    | none => return
    | some c =>
      if p c then
        let _ <- bumpBlanks
        skipWhile p fuel
      else return

def takeWhile (p : Char -> Bool) : (fuel : Nat) -> (taken : List Char) -> Read (List Char)
  | 0, taken => return taken.reverse
  | fuel + 1, taken => do
    match <- peek? with
    | none => return taken.reverse
    | some c =>
      if p c then
        let _ <- bumpBlanks
        takeWhile p fuel (c :: taken)
      else return taken.reverse

def fuel : Read Nat := return (<- get).rest.length + 1

def digitsValue (digits : List Char) : Nat :=
  digits.foldl (fun n c => 10 * n + (c.toNat - 48)) 0

def count : Read (Except Fault Nat) := do
  modify fun cur =>
    let blanks := cur.rest.takeWhile Text.isBlank
    blanks.foldl (fun cur _ => Cursor.advance cur) cur
  let start <- place
  let digits <- takeWhile isDigit (<- fuel) []
  let span <- since start
  skipWhile Text.isBlank (<- fuel)
  if digits.isEmpty then return .error { cause := .repetitionCount, span }
  else if digitsValue digits < Nat.pow 2 32 then return .ok (digitsValue digits)
  else return .error { cause := .countTooLarge, span }

def ofExcept {A : Type} : Except Fault A -> Read A
  | .ok a => return a
  | .error f => fun _ => .error f

def isNameChar (first : Bool) (c : Char) : Bool :=
  let isLetter := c.isAlpha
    || (!c.val < 0x80 && (Unicode.CharSet.ofText Unicode.Ranges.pAlphabetic).contains c)
  if first then c = '_' || isLetter
  else
    c = '_' || c = '.' || c = '[' || c = ']' || isLetter || isDigit c
      || (!c.val < 0x80 && (Unicode.withCategory Unicode.numberCodes).contains c)

def nameChars : (fuel : Nat) -> (taken : List Char) -> Read (List Char)
  | 0, taken => return taken.reverse
  | fuel + 1, taken => do
    match <- peek? with
    | none => return taken.reverse
    | some '>' => return taken.reverse
    | some c =>
      if isNameChar taken.isEmpty c then
        let _ <- bump
        nameChars fuel (c :: taken)
      else fail .nameCharacter (<- charSpan)

def groupName : Read Unit := do
  if <- isEnd then fail .nameEnd (<- here)
  let start <- place
  let name := String.ofList (<- nameChars (<- fuel) [])
  let span <- since start
  if <- isEnd then fail .nameEnd (<- here)
  let _ <- bump
  if name.isEmpty then fail .nameEmpty start.span
  match (<- get).names.lookup name with
  | some other => fail .nameRepeated span (some other)
  | none => modify fun cur => { cur with names := (name, span) :: cur.names }

def flag? : Char -> Option Flag
  | 'i' => some .ignoreCase
  | 'm' => some .multiLine
  | 's' => some .dotAll
  | 'U' => some .swapGreed
  | 'u' => some .unicode
  | 'R' => some .carriage
  | 'x' => some .verbose
  | _ => none

structure FlagList where
  changes : List (FlagChange × Span) := []
  minus : Option Span := none
  -- the minus is the last thing that was read
  dangling : Bool := false

def FlagList.spanOf? (l : FlagList) (f : Flag) : Option Span :=
  (l.changes.find? fun c => c.1.1 = f).map Prod.snd

def addFlag (l : FlagList) (c : Char) : Read FlagList := do
  let span <- charSpan
  if c = '-' then
    match l.minus with
    | some other => fail .flagNegatedTwice span (some other)
    | none => return { l with minus := some span, dangling := true }
  else
    match flag? c with
    | none => fail .flagUnknown span
    | some f =>
      match l.spanOf? f with
      | some other => fail .flagRepeated span (some other)
      | none =>
        return { l with changes := l.changes ++ [((f, l.minus.isNone), span)], dangling := false }

def flagList : (fuel : Nat) -> FlagList -> Read (List FlagChange)
  | 0, l => return l.changes.map Prod.fst
  | fuel + 1, l => do
    match <- peek? with
    | none => fail .flagEnd (<- here)
    | some c =>
      if c = ':' || c = ')' then
        match l.dangling, l.minus with
        | true, some span => fail .flagDangling span
        | _, _ => return l.changes.map Prod.fst
      else
        let l <- addFlag l c
        if <- bump then flagList fuel l else fail .flagEnd (<- here)

def applyVerbose (changes : List FlagChange) : Read Unit :=
  match changes.lookup .verbose with
  | some on => modify fun cur => { cur with verbose := on }
  | none => return

inductive Piece where
  | letter (l : Letter)
  | dot (span : Span)
  | assertion (span : Span) (a : Assertion)
  | perl (c : PerlClass)
  | property (c : PropertyClass)

def Piece.span : Piece -> Span
  | .letter l => l.span
  | .dot span => span
  | .assertion span _ => span
  | .perl c => c.span
  | .property c => c.span

def Piece.tree : Piece -> Tree
  | .letter l => .letter l
  | .dot span => .dot span
  | .assertion span a => .assertion span a
  | .perl c => .perl c
  | .property c => .property c

def character (n : Nat) (span : Span) : Read Char :=
  if n.isValidChar then return Char.ofNat n else fail .hexNoCharacter span

def hexNumber (digits : List Char) : Nat :=
  digits.foldl (fun n c => 16 * n + hexValue c) 0

def hexDigits : (more : Nat) -> (digits : List Char) -> Read (List Char)
  | 0, digits => return digits.reverse
  | more + 1, digits => do
    if !digits.isEmpty then
      if !(<- bumpBlanks) then fail .escapeEnd (<- here)
    match <- peek? with
    | none => fail .escapeEnd (<- here)
    | some c =>
      if isHexDigit c then hexDigits more (c :: digits) else fail .hexDigit (<- charSpan)

def hexFixed (size : Nat) (isByte : Bool) : Read Letter := do
  let start <- place
  let digits <- hexDigits size []
  let _ <- bumpBlanks
  let span <- since start
  return { span, char := <- character (hexNumber digits) span, isByte }

def hexUpToBrace : (fuel : Nat) -> (digits : List Char) -> Read (List Char)
  | 0, digits => return digits.reverse
  | fuel + 1, digits => do
    if <- bumpBlanks then
      match <- peek? with
      | none => return digits.reverse
      | some '}' => return digits.reverse
      | some c =>
        if isHexDigit c then hexUpToBrace fuel (c :: digits) else fail .hexDigit (<- charSpan)
    else return digits.reverse

def hexBraced : Read Letter := do
  let brace <- place
  let start := (<- charSpan).stop
  let digits <- hexUpToBrace (<- fuel) []
  if <- isEnd then fail .escapeEnd (<- since brace)
  let inner <- since start
  let _ <- bumpBlanks
  if digits.isEmpty then fail .hexEmpty (<- since brace)
  let char <- character (hexNumber digits) inner
  return { span := <- since start, char }

def hexEscape (kind : Char) : Read Letter := do
  if !(<- bumpBlanks) then fail .escapeEnd (<- here)
  if <- isAt '{' then hexBraced
  else
    match kind with
    | 'x' => hexFixed 2 true
    | 'u' => hexFixed 4 false
    | _ => hexFixed 8 false

def upToBrace : (fuel : Nat) -> (name : List Char) -> Read (List Char)
  | 0, name => return name.reverse
  | fuel + 1, name => do
    if <- bumpBlanks then
      match <- peek? with
      | none => return name.reverse
      | some '}' => return name.reverse
      | some c => upToBrace fuel (c :: name)
    else return name.reverse

def cutAt? (mark : List Char) : List Char -> Option (List Char × List Char)
  | [] => none
  | c :: rest =>
    if mark.isPrefixOf (c :: rest) then some ([], (c :: rest).drop mark.length)
    else (cutAt? mark rest).map fun (before, after) => (c :: before, after)

def propertyOf (span : Span) (negated : Bool) (text : List Char) : PropertyClass :=
  match (cutAt? ['!', '='] text).or ((cutAt? [':'] text).or (cutAt? ['='] text)) with
  | some (name, value) =>
    { span, negated, name := String.ofList name, value := some (String.ofList value) }
  | none => { span, negated, name := String.ofList text }

def propertyEscape (negated : Bool) : Read PropertyClass := do
  if !(<- bumpBlanks) then fail .escapeEnd (<- here)
  match <- peek? with
  | none => fail .escapeEnd (<- here)
  | some '{' =>
    let start := (<- charSpan).stop
    let name <- upToBrace (<- fuel) []
    if <- isEnd then fail .escapeEnd (<- here)
    let _ <- bump
    return propertyOf (<- since start) negated name
  | some c =>
    let start <- place
    if c = '\\' then fail .propertyLetter (<- charSpan)
    let _ <- bumpBlanks
    return { span := <- since start, negated, name := String.ofList [c] }

def wordEdgeKind? : String -> Option Assertion
  | "start" => some .wordStart
  | "end" => some .wordEnd
  | "start-half" => some .wordStartHalf
  | "end-half" => some .wordEndHalf
  | _ => none

def isEdgeChar (c : Char) : Bool := c.isAlpha || c = '-'

def wordEdge? (start : Place) : Read (Option Assertion) := do
  let brace <- get
  if !(<- bumpBlanks) then fail .wordEdgeEnd (<- since start)
  let inner <- place
  match <- peek? with
  | some c =>
    if isEdgeChar c then
      let name <- takeWhile isEdgeChar (<- fuel) []
      if !(<- isAt '}') then fail .wordEdgeUnclosed (<- since brace.place)
      let span <- since inner
      let _ <- bump
      match wordEdgeKind? (String.ofList name) with
      | some a => return some a
      | none => fail .wordEdgeUnknown span
    else
      set brace
      return none
  | none =>
    set brace
    return none

def isMeta (c : Char) : Bool :=
  ['\\', '.', '+', '*', '?', '(', ')', '|', '[', ']', '\x7b', '\x7d', '^', '$', '#', '&', '-',
    '~'].contains c

def isEscapable (c : Char) : Bool :=
  isMeta c || (c.val < 0x80 && !c.isAlphanum && c != '<' && c != '>')

def control? : Char -> Option Char
  | 'a' => some '\x07'
  | 'f' => some '\x0c'
  | 't' => some '\t'
  | 'n' => some '\n'
  | 'r' => some '\r'
  | 'v' => some '\x0b'
  | _ => none

def shortEscape (start : Place) (c : Char) : Read Piece := do
  let _ <- bump
  let span <- since start
  if isEscapable c then return .letter { span, char := c }
  match control? c with
  | some char => return .letter { span, char }
  | none =>
    match c with
    | 'A' => return .assertion span .textStart
    | 'z' => return .assertion span .textEnd
    | 'B' => return .assertion span .noWordEdge
    | '<' => return .assertion span .wordStart
    | '>' => return .assertion span .wordEnd
    | 'b' =>
      if <- isAt '{' then
        match <- wordEdge? start with
        | some a => return .assertion (<- since start) a
        | none => return .assertion span .wordEdge
      else return .assertion span .wordEdge
    | _ => fail .escapeUnknown span

def perl? : Char -> Option (Perl × Bool)
  | 'd' => some (.digit, false)
  | 's' => some (.space, false)
  | 'w' => some (.word, false)
  | 'D' => some (.digit, true)
  | 'S' => some (.space, true)
  | 'W' => some (.word, true)
  | _ => none

def escape : Read Piece := do
  let start <- place
  if !(<- bump) then fail .escapeEnd (<- since start)
  match <- peek? with
  | none => fail .escapeEnd (<- since start)
  | some c =>
    if isDigit c then fail .backreference { start, stop := (<- charSpan).stop }
    else if c = 'x' || c = 'u' || c = 'U' then
      let l <- hexEscape c
      return .letter { l with span := { l.span with start } }
    else if c = 'p' || c = 'P' then
      let p <- propertyEscape (c = 'P')
      return .property { p with span := { p.span with start } }
    else
      match perl? c with
      | some (kind, negated) =>
        let _ <- bump
        return .perl { span := <- since start, kind, negated }
      | none => shortEscape start c

def Piece.setItem : Piece -> Read ClassSet
  | .letter l => return .letter l
  | .perl c => return .perl c
  | .property c => return .property c
  | p => fail .classEscape p.span

def Piece.boundary : Piece -> Read Letter
  | .letter l => return l
  | p => fail .classBoundary p.span

def classPiece : Read Piece := do
  match <- peek? with
  | some '\\' => escape
  | some c =>
    let span <- charSpan
    let _ <- bump
    return .letter { span, char := c }
  | none => fail .classUnclosed (<- here)

def classRange (unclosed : Span) : Read ClassSet := do
  let first <- classPiece
  skipBlanks
  if <- isEnd then fail .classUnclosed unclosed
  let after <- peekNext?
  if !(<- isAt '-') || after == some ']' || after == some '-' then first.setItem
  else
    if !(<- bumpBlanks) then fail .classUnclosed unclosed
    let second <- classPiece
    let span : Span := { start := first.span.start, stop := second.span.stop }
    let low <- first.boundary
    let high <- second.boundary
    if low.char <= high.char then return .range span low high else fail .classRange span

def asciiNames : List String :=
  ["alnum", "alpha", "ascii", "blank", "cntrl", "digit", "graph", "lower", "print", "punct",
    "space", "upper", "word", "xdigit"]

def asciiClass? : Read (Option ClassSet) := do
  let start <- get
  match start.rest with
  | '[' :: ':' :: rest =>
    let (negated, rest) := match rest with
      | '^' :: rest => (true, rest)
      | _ => (false, rest)
    let name := rest.takeWhile (· != ':')
    let after := rest.drop name.length
    if [':', ']'].isPrefixOf after && asciiNames.contains (String.ofList name) then
      let size := name.length + (if negated then 5 else 4)
      set ((List.range size).foldl (fun cur _ => Cursor.advance cur) start)
      return some (.ascii { span := <- since start.place, name := String.ofList name, negated })
    else return none
  | _ => return none

def leadingMinus (start : Place) : (fuel : Nat) -> (items : List ClassSet) -> Read (List ClassSet)
  | 0, items => return items
  | fuel + 1, items => do
    if <- isAt '-' then
      let item := ClassSet.letter { span := <- charSpan, char := '-' }
      if !(<- bumpBlanks) then fail .classUnclosed start.span
      leadingMinus start fuel (item :: items)
    else return items

def openClass : Read (Bool × Place × Span × List ClassSet) := do
  let start <- place
  if !(<- bumpBlanks) then fail .classUnclosed (<- since start)
  let negated <- isAt '^'
  if negated then
    if !(<- bumpBlanks) then fail .classUnclosed (<- since start)
  let inner <- place
  let items <- leadingMinus start (<- fuel) []
  let bracket <- isAt ']'
  if items.isEmpty && bracket then
    let item := ClassSet.letter { span := <- charSpan, char := ']' }
    if !(<- bumpBlanks) then fail .classUnclosed (<- since start)
    return (negated, inner, <- since start, [item])
  else return (negated, inner, <- since start, items)

structure Pending where
  kind : SetOp
  left : ClassSet

def Pending.close (p : Option Pending) (right : ClassSet) : ClassSet :=
  match p with
  | none => right
  | some p =>
    .op { start := p.left.span.start, stop := right.span.stop } p.kind p.left right

def setOp? : Read (Option SetOp) := do
  if <- bumpIf "&&" then return some .inter
  if <- bumpIf "--" then return some .diff
  if <- bumpIf "~~" then return some .symmDiff
  return none

def classItems (unclosed : Span) : (fuel : Nat) -> Option Pending -> Place -> List ClassSet ->
    Read ClassSet
  | 0, _, _, _ => fail .classUnclosed unclosed
  | fuel + 1, pending, inner, items => do
    skipBlanks
    match <- peek? with
    | none => fail .classUnclosed unclosed
    | some ']' =>
      let _ <- bump
      return Pending.close pending (ClassSet.ofItems inner items.reverse)
    | some '[' =>
      match <- asciiClass? with
      | some item => classItems unclosed fuel pending inner (item :: items)
      | none =>
        let start <- place
        let (negated, innerOpen, unclosedInner, first) <- openClass
        let set <- classItems unclosedInner fuel none innerOpen first
        let item := ClassSet.bracket (<- since start) negated set
        classItems unclosed fuel pending inner (item :: items)
    | some _ =>
      match <- setOp? with
      | some kind =>
        let left := Pending.close pending (ClassSet.ofItems inner items.reverse)
        classItems unclosed fuel (some { kind, left }) (<- place) []
      | none =>
        let item <- classRange unclosed
        classItems unclosed fuel pending inner (item :: items)

def bracketClass : Read Tree := do
  let start <- place
  let (negated, inner, unclosed, items) <- openClass
  let set <- classItems unclosed (<- fuel) none inner items
  return .bracket (<- since start) negated set

def repeatable (parts : List Tree) : Read (Tree × List Tree) := do
  match parts with
  | [] => fail .repetitionOfNothing (<- here)
  | .empty _ :: _ => fail .repetitionOfNothing (<- here)
  | .flags _ _ :: _ => fail .repetitionOfNothing (<- here)
  | t :: rest => return (t, rest)

def repetition (t : Tree) (min : Nat) (max : Option Nat) : Read Tree := do
  return .repeated (<- since t.span.start) min max t

def markRepetition (parts : List Tree) (min : Nat) (max : Option Nat) : Read (List Tree) := do
  let (t, rest) <- repeatable parts
  let more <- bump
  if more && (<- isAt '?') then
    let _ <- bump
  return (<- repetition t min max) :: rest

def countRange (start : Place) : Read (Nat × Option Nat) := do
  let low <- count
  if <- isEnd then fail .repetitionUnclosed (<- since start)
  if <- isAt ',' then
    if !(<- bumpBlanks) then fail .repetitionUnclosed (<- since start)
    if <- isAt '}' then return (<- ofExcept low, none)
    else
      let low <- ofExcept low
      let high <- ofExcept (<- count)
      return (low, some high)
  else
    let n <- ofExcept low
    return (n, some n)

def countRepetition (parts : List Tree) : Read (List Tree) := do
  let start <- place
  let (t, rest) <- repeatable parts
  if !(<- bumpBlanks) then fail .repetitionUnclosed (<- since start)
  let (min, max) <- countRange start
  if !(<- isAt '}') then fail .repetitionUnclosed (<- since start)
  let more <- bumpBlanks
  if more && (<- isAt '?') then
    let _ <- bump
  match max with
  | some high =>
    if high < min then fail .repetitionRange (<- since start)
    else return (<- repetition t min max) :: rest
  | none => return (<- repetition t min max) :: rest

inductive Opening where
  | flags (t : Tree)
  | group (span : Span) (captures : Bool) (changes : List FlagChange)

def lookAround : Read Bool := do
  if <- bumpIf "?=" then return true
  if <- bumpIf "?!" then return true
  if <- bumpIf "?<=" then return true
  bumpIf "?<!"

def nameMark : Read Bool := do
  if <- bumpIf "?P<" then return true
  bumpIf "?<"

def opening : Read Opening := do
  let paren <- charSpan
  let _ <- bump
  skipBlanks
  if <- lookAround then fail .lookAround (<- since paren.start)
  let inner <- here
  if <- nameMark then
    groupName
    return .group paren true []
  else if <- bumpIf "?" then
    if <- isEnd then fail .groupUnclosed paren
    let changes <- flagList (<- fuel) {}
    let closes <- isAt ')'
    let _ <- bump
    if closes then
      if changes.isEmpty then fail .repetitionOfNothing inner
      applyVerbose changes
      return .flags (.flags (<- since paren.start) changes)
    else return .group paren false changes
  else return .group paren true []

def single (c : Char) : Read Tree := do
  let span <- charSpan
  match c with
  | '\\' => return (<- escape).tree
  | '.' =>
    let _ <- bump
    return .dot span
  | '^' =>
    let _ <- bump
    return .assertion span .lineStart
  | '$' =>
    let _ <- bump
    return .assertion span .lineEnd
  | _ =>
    let _ <- bump
    return .letter { span, char := c }

mutual

def parts : (fuel : Nat) -> (before : List Tree) -> Read (List Tree)
  | 0, before => return before
  | fuel + 1, before => do
    skipBlanks
    match <- peek? with
    | none => return before
    | some '|' => return before
    | some ')' => return before
    | some '[' => parts fuel ((<- bracketClass) :: before)
    | some '?' => parts fuel (<- markRepetition before 0 (some 1))
    | some '*' => parts fuel (<- markRepetition before 0 none)
    | some '+' => parts fuel (<- markRepetition before 1 none)
    | some '{' => parts fuel (<- countRepetition before)
    | some '(' =>
      match <- opening with
      | .flags t =>
        parts fuel (t :: before)
      | .group paren captures changes =>
        let verbose := (<- get).verbose
        applyVerbose changes
        let body <- branches fuel (<- place) (<- place) []
        if <- isEnd then fail .groupUnclosed paren
        modify fun cur => { cur with verbose }
        let _ <- bump
        parts fuel (.group (<- since paren.start) captures changes body :: before)
    | some c => parts fuel ((<- single c) :: before)

def branches : (fuel : Nat) -> (first start : Place) -> (before : List Tree) -> Read Tree
  | 0, first, _, before => return Tree.ofBranches first.span before.reverse
  | fuel + 1, first, start, before => do
    let found <- parts fuel []
    let before := Tree.ofParts (<- since start) found.reverse :: before
    if <- isAt '|' then
      let _ <- bump
      branches fuel first (<- place) before
    else return Tree.ofBranches (<- since first) before.reverse

end

def whole : Read Tree := do
  let t <- branches (2 * (<- fuel) + 2) {} {} []
  if <- isEnd then return t else fail .groupUnopened (<- charSpan)

end Read

def Tree.read (text : String) : Except Fault Tree := do
  let (t, _) <- Read.whole.run { rest := text.toList }
  t.checkDepth 0
  return t

end FleetSearch.Pattern
