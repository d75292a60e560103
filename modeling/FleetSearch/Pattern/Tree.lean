import FleetSearch.Pattern.Fault

set_option autoImplicit false

namespace FleetSearch.Pattern

structure Letter where
  span : Span
  char : Char
  -- written with two hexadecimal digits, which can mean a byte
  isByte : Bool := false
deriving DecidableEq, Inhabited

inductive Assertion where
  | lineStart
  | lineEnd
  | textStart
  | textEnd
  | wordEdge
  | noWordEdge
  | wordStart
  | wordEnd
  | wordStartHalf
  | wordEndHalf
deriving DecidableEq

inductive Perl where
  | digit
  | space
  | word
deriving DecidableEq

structure PerlClass where
  span : Span
  kind : Perl
  negated : Bool
deriving DecidableEq

structure AsciiClass where
  span : Span
  name : String
  negated : Bool
deriving DecidableEq

structure PropertyClass where
  span : Span
  negated : Bool
  name : String
  value : Option String := none
deriving DecidableEq

inductive SetOp where
  | inter
  | diff
  | symmDiff
deriving DecidableEq

inductive ClassSet where
  | empty (place : Place)
  | letter (l : Letter)
  | range (span : Span) (low high : Letter)
  | ascii (c : AsciiClass)
  | property (c : PropertyClass)
  | perl (c : PerlClass)
  | bracket (span : Span) (negated : Bool) (set : ClassSet)
  | union (span : Span) (items : List ClassSet)
  | op (span : Span) (kind : SetOp) (left right : ClassSet)

def ClassSet.span : ClassSet -> Span
  | .empty place => place.span
  | .letter l => l.span
  | .range span _ _ => span
  | .ascii c => c.span
  | .property c => c.span
  | .perl c => c.span
  | .bracket span _ _ => span
  | .union span _ => span
  | .op span _ _ _ => span

inductive Flag where
  | ignoreCase
  | multiLine
  | dotAll
  | swapGreed
  | unicode
  | carriage
  | verbose
deriving DecidableEq

abbrev FlagChange := Flag × Bool

inductive Tree where
  | empty (span : Span)
  | flags (span : Span) (changes : List FlagChange)
  | letter (l : Letter)
  | dot (span : Span)
  | assertion (span : Span) (a : Assertion)
  | perl (c : PerlClass)
  | property (c : PropertyClass)
  | bracket (span : Span) (negated : Bool) (set : ClassSet)
  | repeated (span : Span) (min : Nat) (max : Option Nat) (body : Tree)
  -- a group that captures has no flags of its own
  | group (span : Span) (captures : Bool) (changes : List FlagChange) (body : Tree)
  | alternation (span : Span) (branches : List Tree)
  | concat (span : Span) (parts : List Tree)

def Tree.span : Tree -> Span
  | .empty span => span
  | .flags span _ => span
  | .letter l => l.span
  | .dot span => span
  | .assertion span _ => span
  | .perl c => c.span
  | .property c => c.span
  | .bracket span _ _ => span
  | .repeated span _ _ _ => span
  | .group span _ _ _ => span
  | .alternation span _ => span
  | .concat span _ => span

def Tree.ofParts (span : Span) : List Tree -> Tree
  | [] => .empty span
  | [t] => t
  | parts => .concat span parts

def Tree.ofBranches (span : Span) : List Tree -> Tree
  | [t] => t
  | branches => .alternation span branches

def ClassSet.ofItems (place : Place) : List ClassSet -> ClassSet
  | [] => .empty place
  | [item] => item
  | first :: rest =>
    let stop := (rest.getLast?.map fun item => item.span.stop).getD first.span.stop
    .union { start := first.span.start, stop } (first :: rest)

abbrev Depth := Except Fault

def deepest : Nat := 250

def within (depth : Nat) (span : Span) : Depth Unit :=
  if depth < deepest then .ok () else .error { cause := .nestedTooDeep deepest, span }

mutual

def ClassSet.checkDepth (depth : Nat) : ClassSet -> Depth Unit
  | .bracket span _ set => do
    within depth span
    set.checkDepth (depth + 1)
  | .union span items => do
    within depth span
    checkItems (depth + 1) items
  | .op span _ left right => do
    within depth span
    left.checkDepth (depth + 1)
    right.checkDepth (depth + 1)
  | _ => return

def checkItems (depth : Nat) : List ClassSet -> Depth Unit
  | [] => return
  | item :: rest => do
    item.checkDepth depth
    checkItems depth rest

end

mutual

def Tree.checkDepth (depth : Nat) : Tree -> Depth Unit
  | .bracket span _ set => do
    within depth span
    set.checkDepth (depth + 1)
  | .repeated span _ _ body => do
    within depth span
    body.checkDepth (depth + 1)
  | .group span _ _ body => do
    within depth span
    body.checkDepth (depth + 1)
  | .alternation span branches => do
    within depth span
    checkTrees (depth + 1) branches
  | .concat span parts => do
    within depth span
    checkTrees (depth + 1) parts
  | _ => return

def checkTrees (depth : Nat) : List Tree -> Depth Unit
  | [] => return
  | t :: rest => do
    t.checkDepth depth
    checkTrees depth rest

end

end FleetSearch.Pattern
