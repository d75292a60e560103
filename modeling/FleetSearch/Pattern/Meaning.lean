import FleetSearch.Pattern.Expr
import FleetSearch.Pattern.Named
import FleetSearch.Unicode.Folding

set_option autoImplicit false

/-!
From the tree of a pattern to the expression that it means. Without the `u` flag sets hold bytes;
a pattern that could then match part of a character is refused.
-/

namespace FleetSearch.Pattern

open FleetSearch.Unicode

structure Flags where
  ignoreCase : Bool := false
  multiLine : Bool := false
  dotAll : Bool := false
  unicode : Bool := true
  carriage : Bool := false
deriving DecidableEq, Inhabited

def Flags.change (f : Flags) (c : FlagChange) : Flags :=
  match c.1 with
  | .ignoreCase => { f with ignoreCase := c.2 }
  | .multiLine => { f with multiLine := c.2 }
  | .dotAll => { f with dotAll := c.2 }
  | .unicode => { f with unicode := c.2 }
  | .carriage => { f with carriage := c.2 }
  -- neither changes what matches
  | .swapGreed => f
  | .verbose => f

abbrev Sense := Except Fault

namespace Sense

def fail {A : Type} (cause : Cause) (span : Span) : Sense A :=
  .error { cause, span }

def asciiFold (s : CharSet) : CharSet :=
  let shifted := fun (low high : Nat) (f : Nat -> Nat) =>
    s.ranges.filterMap fun r =>
      if r.1 <= high && low <= r.2 then some (f (max r.1 low), f (min r.2 high)) else none
  (s.union (CharSet.ofRanges (shifted 0x41 0x5A fun n => n + 32))).union
    (CharSet.ofRanges (shifted 0x61 0x7A fun n => n - 32))

def fold (f : Flags) (s : CharSet) : CharSet :=
  if !f.ignoreCase then s else if f.unicode then s.foldClosure else asciiFold s

def complement (f : Flags) (s : CharSet) : CharSet :=
  if f.unicode then s.complement else s.complementWithin 0xFF

-- Letter case is dealt with before negation.
def finish (f : Flags) (span : Span) (negated : Bool) (s : CharSet) : Sense CharSet :=
  let s := fold f s
  let s := if negated then complement f s else s
  if f.unicode || s.isAscii then return s else fail .invalidText span

def perlSet (unicode : Bool) : Perl -> CharSet
  | .digit => if unicode then withCategory ["Nd"] else asciiSet "digit"
  | .space => if unicode then CharSet.ofText Ranges.pWhiteSpace else asciiSet "space"
  | .word => if unicode then word else asciiWord

def perl (f : Flags) (c : PerlClass) : Sense CharSet :=
  let s := perlSet f.unicode c.kind
  let s := if c.negated then complement f s else s
  if f.unicode || s.isAscii then return s else fail .invalidText c.span

def property (f : Flags) (c : PropertyClass) : Sense CharSet :=
  if !f.unicode then fail .unicodeNotAllowed c.span
  else
    match c.set with
    | .error cause => fail cause c.span
    | .ok s => finish f c.span c.negated s

def isLoneByte (f : Flags) (l : Letter) : Bool :=
  !f.unicode && l.isByte && 0x80 <= l.char.val

def inSet (f : Flags) (l : Letter) : Sense Nat :=
  if f.unicode then return l.char.toNat
  else if isLoneByte f l then fail .invalidText l.span
  else if l.char.val < 0x80 then return l.char.toNat
  else fail .unicodeNotAllowed l.span

def combine : SetOp -> CharSet -> CharSet -> CharSet
  | .inter => CharSet.inter
  | .diff => CharSet.diff
  | .symmDiff => CharSet.symmDiff

mutual

def classSet (f : Flags) : ClassSet -> Sense CharSet
  | .empty _ => return CharSet.empty
  | .letter l => do
    let n <- inSet f l
    return CharSet.ofRange n n
  | .range _ low high => do
    let low <- inSet f low
    let high <- inSet f high
    return CharSet.ofRange low high
  | .ascii c => finish f c.span c.negated (asciiSet c.name)
  | .property c => property f c
  | .perl c => perl f c
  | .bracket span negated set => do
    finish f span negated (<- classSet f set)
  | .union _ items => classSets f items
  | .op _ kind left right => do
    let left <- classSet f left
    let right <- classSet f right
    return combine kind (fold f left) (fold f right)

def classSets (f : Flags) : List ClassSet -> Sense CharSet
  | [] => return CharSet.empty
  | item :: rest => do
    let s <- classSet f item
    return s.union (<- classSets f rest)

end

def letter (f : Flags) (l : Letter) : Sense Expr :=
  if isLoneByte f l then fail .invalidText l.span
  else return .set (fold f (CharSet.ofChar l.char))

def dot (f : Flags) (span : Span) : Sense Expr :=
  if !f.unicode then fail .invalidText span
  else if f.dotAll then return .set CharSet.everything
  else if f.carriage then return .set (CharSet.ofRanges [(10, 10), (13, 13)]).complement
  else return .set (CharSet.ofRange 10 10).complement

def look (f : Flags) : Assertion -> Look
  | .lineStart =>
    if !f.multiLine then .textStart else if f.carriage then .carriageStart else .lineStart
  | .lineEnd => if !f.multiLine then .textEnd else if f.carriage then .carriageEnd else .lineEnd
  | .textStart => .textStart
  | .textEnd => .textEnd
  | .wordEdge => .wordEdge f.unicode
  | .noWordEdge => .noWordEdge f.unicode
  | .wordStart => .wordStart f.unicode
  | .wordEnd => .wordEnd f.unicode
  | .wordStartHalf => .wordStartHalf f.unicode
  | .wordEndHalf => .wordEndHalf f.unicode

mutual

def tree (f : Flags) : Tree -> Sense (Expr × Flags)
  | .empty _ => return (.empty, f)
  | .flags _ changes => return (.empty, changes.foldl Flags.change f)
  | .letter l => return (<- letter f l, f)
  | .dot span => return (<- dot f span, f)
  | .assertion _ a => return (.look (look f a), f)
  | .perl c => return (.set (<- perl f c), f)
  | .property c => return (.set (<- property f c), f)
  | .bracket span negated set => do
    return (.set (<- finish f span negated (<- classSet f set)), f)
  | .repeated _ min max body => do
    let (e, f) <- tree f body
    return (.rep min max e, f)
  | .group _ captures changes body => do
    let (e, _) <- tree (changes.foldl Flags.change f) body
    return (if captures then .capture e else e, f)
  | .alternation _ branches => alternatives f branches
  | .concat _ parts => sequence f parts

def sequence (f : Flags) : List Tree -> Sense (Expr × Flags)
  | [] => return (.empty, f)
  | [t] => tree f t
  | t :: rest => do
    let (first, f) <- tree f t
    let (second, f) <- sequence f rest
    return (.seq first second, f)

def alternatives (f : Flags) : List Tree -> Sense (Expr × Flags)
  | [] => return (.set CharSet.empty, f)
  | [t] => tree f t
  | t :: rest => do
    let (left, f) <- tree f t
    let (right, f) <- alternatives f rest
    return (.alt left right, f)

end

end Sense

def Tree.meaning (t : Tree) (ignoreCase : Bool) : Except Fault Expr := do
  let (e, _) <- Sense.tree { ignoreCase } t
  return e

end FleetSearch.Pattern
