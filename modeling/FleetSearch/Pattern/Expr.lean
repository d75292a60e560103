import FleetSearch.Unicode.CharSet
import FleetSearch.Unicode.Category
import FleetSearch.Unicode.Property

set_option autoImplicit false

/-!
What a pattern means: expressions over sets of characters and conditions on the place between two
characters. A search keeps the expressions that are still to be matched and takes one character
after the other.
-/

namespace FleetSearch.Pattern

open FleetSearch.Unicode

structure Around where
  before : Option Char
  after : Option Char
deriving DecidableEq

inductive Look where
  | textStart
  | textEnd
  | lineStart
  | lineEnd
  -- the same where `\r\n` and `\r` break lines too
  | carriageStart
  | carriageEnd
  | wordEdge (unicode : Bool)
  | noWordEdge (unicode : Bool)
  | wordStart (unicode : Bool)
  | wordEnd (unicode : Bool)
  | wordStartHalf (unicode : Bool)
  | wordEndHalf (unicode : Bool)
deriving DecidableEq

def asciiWord : CharSet :=
  { ranges := [(0x30, 0x39), (0x41, 0x5A), (0x5F, 0x5F), (0x61, 0x7A)] }

def word : CharSet :=
  ((CharSet.ofText Ranges.pAlphabetic).union (CharSet.ofText Ranges.pJoinControl)).union
    (withCategory ("Nd" :: "Pc" :: marks))

def isWordChar (unicode : Bool) (c : Option Char) : Bool :=
  match c with
  | none => false
  | some c => if c.val < 0x80 || !unicode then asciiWord.contains c else word.contains c

def Look.holds (a : Around) : Look -> Bool
  | .textStart => a.before.isNone
  | .textEnd => a.after.isNone
  | .lineStart => a.before.isNone || a.before == some '\n'
  | .lineEnd => a.after.isNone || a.after == some '\n'
  | .carriageStart =>
    a.before.isNone || a.before == some '\n' || (a.before == some '\r' && a.after != some '\n')
  | .carriageEnd =>
    a.after.isNone || a.after == some '\r' || (a.after == some '\n' && a.before != some '\r')
  | .wordEdge u => isWordChar u a.before != isWordChar u a.after
  | .noWordEdge u => isWordChar u a.before == isWordChar u a.after
  | .wordStart u => !isWordChar u a.before && isWordChar u a.after
  | .wordEnd u => isWordChar u a.before && !isWordChar u a.after
  | .wordStartHalf u => !isWordChar u a.before
  | .wordEndHalf u => !isWordChar u a.after

inductive Expr where
  | empty
  | set (s : CharSet)
  | look (l : Look)
  | seq (first second : Expr)
  | alt (left right : Expr)
  -- at least `min` times, and at most `max` times if there is a most
  | rep (min : Nat) (max : Option Nat) (body : Expr)
  -- a group that captures means what its body means
  | capture (body : Expr)
deriving DecidableEq, Inhabited

namespace Expr

def isNullable (a : Around) : Expr -> Bool
  | empty => true
  | set _ => false
  | look l => l.holds a
  | seq first second => first.isNullable a && second.isNullable a
  | alt left right => left.isNullable a || right.isNullable a
  | rep min _ body => min == 0 || body.isNullable a
  | capture body => body.isNullable a

abbrev Thread := List Expr

-- What is left to match once `c` has been taken, with `rest` to follow. A repetition whose body is
-- nullable here can do without the copies that are still missing.
def step (a : Around) (c : Char) : Expr -> (rest : Thread) -> List Thread
  | empty, _ => []
  | set s, rest => if s.contains c then [rest] else []
  | look _, _ => []
  | seq first second, rest =>
    first.step a c (second :: rest) ++ (if first.isNullable a then second.step a c rest else [])
  | alt left right, rest => left.step a c rest ++ right.step a c rest
  | rep min max body, rest =>
    if max = some 0 then []
    else
      let min := if body.isNullable a then 0 else min - 1
      body.step a c (rep min (max.map fun n => n - 1) body :: rest)
  | capture body, rest => body.step a c rest

end Expr

namespace Thread

def isNullable (a : Around) (t : Expr.Thread) : Bool :=
  t.all fun e => e.isNullable a

def step (a : Around) (c : Char) : Expr.Thread -> List Expr.Thread
  | [] => []
  | e :: rest => e.step a c rest ++ (if e.isNullable a then step a c rest else [])

end Thread

def distinct : (seen : List Expr.Thread) -> List Expr.Thread -> List Expr.Thread
  | seen, [] => seen.reverse
  | seen, t :: rest => if seen.contains t then distinct seen rest else distinct (t :: seen) rest

-- Whether some thread ends, or the expression, starting here or later, matches.
def search (e : Expr) : (before : Option Char) -> List Expr.Thread -> List Char -> Bool
  | before, threads, [] => ([e] :: threads).any (Thread.isNullable { before, after := none })
  | before, threads, c :: rest =>
    let a : Around := { before, after := some c }
    let threads := [e] :: threads
    threads.any (Thread.isNullable a)
      || search e (some c) (distinct [] (threads.flatMap (Thread.step a c))) rest

/-- Whether the expression matches somewhere in a text. -/
def Expr.occursIn (e : Expr) (text : List Char) : Bool :=
  search e none [] text

end FleetSearch.Pattern
