import FleetSearch.Pattern.Expr

set_option autoImplicit false

/-!
How much memory the compiled form of an expression takes. A pattern is refused if that is too much
in either reading direction.

The compiled form is a graph. Each node has a fixed size; a node with several ways on has an entry
for each of them. A character is read byte by byte.
-/

namespace FleetSearch.Pattern

open FleetSearch.Unicode

namespace Weight

def node : Nat := 32
-- a way on with a range of bytes, and one without
def labelled : Nat := 8
def plainEdge : Nat := 4

def stretches : List (Nat × Nat) :=
  [(0, 0x7F), (0x80, 0x7FF), (0x800, 0xD7FF), (0xE000, 0xFFFF), (0x10000, 0x10FFFF)]

def encode (n : Nat) : List Nat :=
  if n < 0x80 then [n]
  else if n < 0x800 then [0xC0 + n / 64, 0x80 + n % 64]
  else if n < 0x10000 then [0xE0 + n / 4096, 0x80 + n / 64 % 64, 0x80 + n % 64]
  else [0xF0 + n / 262144, 0x80 + n / 4096 % 64, 0x80 + n / 64 % 64, 0x80 + n % 64]

abbrev ByteRange := Nat × Nat

def spans : (more : Nat) -> (low high : List Nat) -> List (List ByteRange)
  | 0, l :: _, h :: _ => [[(l, h)]]
  | more + 1, l :: ls, h :: hs =>
    if l = h then (spans more ls hs).map fun s => (l, l) :: s
    else
      let first := if ls.all (· = 0x80) then l else l + 1
      let last := if hs.all (· = 0xBF) then h else h - 1
      let head :=
        if first = l then []
        else (spans more ls (List.replicate (more + 1) 0xBF)).map fun s => (l, l) :: s
      let tail :=
        if last = h then []
        else (spans more (List.replicate (more + 1) 0x80) hs).map fun s => (h, h) :: s
      let middle :=
        if first <= last then [(first, last) :: List.replicate (more + 1) (0x80, 0xBF)] else []
      head ++ middle ++ tail
  | _, _, _ => []

def sequences (s : CharSet) : List (List ByteRange) :=
  s.ranges.flatMap fun r =>
    stretches.flatMap fun stretch =>
      let low := max r.1 stretch.1
      let high := min r.2 stretch.2
      if low <= high then spans ((encode low).length - 1) (encode low) (encode high) else []

def sharedLength : List ByteRange -> List ByteRange -> Nat
  | a :: as, b :: bs => if a = b then sharedLength as bs + 1 else 0
  | _, _ => 0

def beginnings : (before : List ByteRange) -> List (List ByteRange) -> Nat
  | _, [] => 0
  | before, s :: rest => s.length - sharedLength before s + beginnings s rest

abbrev Edges := List (ByteRange × Nat)

def placeIn (edges : Edges) (table : List Edges) : Nat × List Edges :=
  match table.findIdx? (· == edges) with
  | some i => (table.length - i, table)
  | none => (table.length + 1, edges :: table)

def groupByFirst : List (List ByteRange) -> List (ByteRange × List (List ByteRange))
  | [] => []
  | [] :: rest => groupByFirst rest
  | (r :: s) :: rest =>
    match groupByFirst rest with
    | (q, group) :: more =>
      if q = r then (r, s :: group) :: more else (r, [s]) :: (q, group) :: more
    | [] => [(r, [s])]

mutual

def place : (depth : Nat) -> List (List ByteRange) -> List Edges -> Nat × List Edges
  | 0, _, table => (0, table)
  | depth + 1, seqs, table =>
    if seqs.all List.isEmpty then (0, table)
    else
      let (edges, table) := placeGroups depth (groupByFirst seqs) table
      placeIn edges table

def placeGroups (depth : Nat) : List (ByteRange × List (List ByteRange)) -> List Edges ->
    Edges × List Edges
  | [], table => ([], table)
  | (r, group) :: rest, table =>
    let (target, table) := place depth group table
    let (edges, table) := placeGroups depth rest table
    ((r, target) :: edges, table)

end

inductive Direction where
  | forward
  | backward
deriving DecidableEq

def ofNodes (table : List Edges) : Nat :=
  (table.map fun edges => node + labelled * edges.length).foldr (· + ·) 0

def ofSet (d : Direction) (s : CharSet) : Nat :=
  match s.ranges with
  | [(low, high)] =>
    if low = high then node * (encode low).length
    else ofWide d s
  | _ => ofWide d s
where
  ofWide (d : Direction) (s : CharSet) : Nat :=
    if s.isAscii then 2 * node + labelled * s.ranges.length
    else
      let seqs := sequences s
      match d with
      | .forward => node + ofNodes (place 5 seqs []).2
      | .backward => 2 * node + plainEdge * seqs.length + node * beginnings [] seqs

-- No less than the weight of a set, without a look at its bytes.
def mostOfSet (s : CharSet) : Nat :=
  1200 * s.ranges.length + 2 * node

def matchesOnlyEmpty : Expr -> Bool
  | .empty => true
  | .set _ => false
  | .look _ => true
  | .seq first second => matchesOnlyEmpty first && matchesOnlyEmpty second
  | .alt left right => matchesOnlyEmpty left && matchesOnlyEmpty right
  | .rep _ max body => max == some 0 || matchesOnlyEmpty body
  | .capture body => matchesOnlyEmpty body

def takesCharacter : Expr -> Bool
  | .empty => false
  | .set s => !s.ranges.isEmpty
  | .look _ => false
  | .seq first second => takesCharacter first || takesCharacter second
  | .alt left right => takesCharacter left && takesCharacter right
  | .rep min _ body => min != 0 && takesCharacter body
  | .capture body => takesCharacter body

def ofRep (min : Nat) (max : Option Nat) (e : Expr) (body : Nat) : Nat :=
  let (min, max) :=
    if matchesOnlyEmpty e then (Nat.min min 1, some (Nat.min (max.getD 1) 1)) else (min, max)
  match max with
  | some max =>
    if max = 0 then node
    else if min = 0 && max = 1 then 2 * node + 2 * plainEdge + body
    else if min = max then min * body
    else
      (if min = 0 then node else min * body) + node
        + (max - min) * (node + 2 * plainEdge + body)
  | none =>
    if min = 0 then
      if takesCharacter e then node + 2 * plainEdge + body
      else 3 * node + 4 * plainEdge + body
    else min * body + node + 2 * plainEdge

def joinedSets : Expr -> Option CharSet
  | .set s => some s
  | .alt left right =>
    match joinedSets left, joinedSets right with
    | some a, some b => some (a.union b)
    | _, _ => none
  | _ => none

def branchCount : Expr -> Nat
  | .alt left right => branchCount left + branchCount right
  | _ => 1

-- The weight of an expression as a part of a sequence or an alternative: neither adds nodes for the
-- nesting of its parts.
def parts (set : CharSet -> Nat) (group : Nat) : Expr -> (asBranch : Bool) -> Nat
  | .empty, asBranch => if asBranch then node else 0
  | .set s, _ => set s
  | .look _, _ => node
  | .seq first second, _ => parts set group first false + parts set group second false
  | .alt left right, asBranch =>
    match joinedSets (.alt left right) with
    | some s => set s
    | none =>
      (if asBranch then 0 else 2 * node + plainEdge * branchCount (.alt left right))
        + parts set group left true + parts set group right true
  | .rep min max body, _ => ofRep min max body (Nat.max (parts set group body false) node)
  | .capture body, _ => group + Nat.max (parts set group body false) node

def frame : Nat := 208

def total (set : CharSet -> Nat) (group : Nat) (e : Expr) : Nat :=
  frame + parts set group e false

def limit : Nat := 10485760

def isTooMuch (e : Expr) : Bool :=
  limit < total mostOfSet (2 * node) e
    && (limit < total (ofSet .forward) (2 * node) e || limit < total (ofSet .backward) 0 e)

end Weight

end FleetSearch.Pattern
