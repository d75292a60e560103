import FleetSearch.Checkout.Grep
import FleetSearch.Checkout.Walk
import FleetSearch.Search.Ending

set_option autoImplicit false

/-!
The two looks at a checkout. `probe` goes through the files in order until one matches, and `fetch`
brings the matching lines from that file on.
-/

namespace FleetSearch.Checkout

open FleetSearch.Disk FleetSearch.Search

inductive ProbeFault where
  | unavailable (dir : String)
  | badQuery (refusal : Pattern.Refusal)
  | badFiles (refusal : Pattern.Refusal)
  | badExcludeFiles (refusal : Pattern.Refusal)
deriving DecidableEq

def ProbeFault.causes : ProbeFault -> List String
  | .unavailable dir => ["Checkout " ++ dir ++ " is not available"]
  | .badQuery refusal => ["Invalid query", refusal.message]
  | .badFiles refusal => ["Invalid file pattern", refusal.message]
  | .badExcludeFiles refusal => ["Invalid exclude file pattern", refusal.message]

structure PathFilter where
  wanted : Option Pattern := none
  unwanted : Option Pattern := none
deriving DecidableEq, Inhabited

namespace PathFilter

def compile (text : String) (ignoreCase : Bool) : Except Pattern.Refusal (Option Pattern) :=
  if text.isEmpty then .ok none else (Pattern.compile text ignoreCase).map some

def ofOptions (o : Options) : Except ProbeFault PathFilter := do
  let wanted <- (compile o.files o.ignoreCase).mapError .badFiles
  let unwanted <- (compile o.excludeFiles o.ignoreCase).mapError .badExcludeFiles
  return { wanted, unwanted }

def accepts (f : PathFilter) (name : String) : Bool :=
  f.wanted.all (·.occursIn name.toList) && !f.unwanted.any (·.occursIn name.toList)

end PathFilter

-- What a probe keeps for the fetch: the files in order, and how many lie before the first that
-- matches.
structure Candidates where
  pattern : Pattern
  files : List SearchFile
  firstHit : Nat
deriving DecidableEq, Inhabited

-- Files that are no text match nothing.
def isHit (v : Volume) (p : Pattern) (f : SearchFile) : Bool :=
  match v.readText f.path with
  | .ok text => p.occursIn text.toList
  | .error _ => false

def prepare (v : Volume) (dir : String) (query : String) (o : Options) :
    Except ProbeFault (Pattern × PathFilter) := do
  if !v.isDir dir then throw (.unavailable dir)
  let pattern <- (Pattern.compile query o.ignoreCase).mapError .badQuery
  let filter <- PathFilter.ofOptions o
  return (pattern, filter)

def probe (v : Volume) (dir : String) (excludeDotFiles : Bool) (query : String) (o : Options) :
    Except ProbeFault (Finding Candidates) := do
  let (pattern, filter) <- prepare v dir query o
  let files := (walk v dir excludeDotFiles).files.filter fun f => filter.accepts f.name
  let firstHit := files.findIdx (isHit v pattern)
  return { found := firstHit < files.length, payload := { pattern, files, firstHit } }

def Candidates.texts (c : Candidates) (v : Volume) : List (String × String) :=
  (c.files.drop c.firstHit).filterMap fun f =>
    (v.readText f.path).toOption.map fun text => (f.name, text)

def grepFile (p : Pattern) (context : Nat) (file : String × String) : Except GrepFault FileMatch :=
  do return { file := file.1, lines := <- grep p context file.2.toList }

-- A window of a list; a limit of zero is none.
def window {A : Type} (offset limit : Nat) (xs : List A) : List A :=
  if limit = 0 then xs.drop offset else (xs.drop offset).take limit

def fetch (v : Volume) (revision : String) (c : Candidates) (o : Options) :
    Except GrepFault Harvest := do
  let texts := c.texts v
  let files <- texts.mapM (grepFile c.pattern o.context)
  let found := files.filter fun f => !f.lines.isEmpty
  return {
    matched := window o.offset o.limit found
    filesWithMatch := found.length
    filesOpened := texts.length
    revision }

end FleetSearch.Checkout
