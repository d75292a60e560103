import FleetSearch.Json.Record
import FleetSearch.Json.Value

set_option autoImplicit false

namespace FleetSearch.Search

open FleetSearch.Json

-- A line that matches, with the lines around it. Lines are counted from one.
structure LineMatch where
  line : String
  number : Nat
  before : List String
  after : List String
deriving DecidableEq, Inhabited

structure FileMatch where
  file : String
  lines : List LineMatch
deriving DecidableEq, Inhabited

structure Harvest where
  matched : List FileMatch := []
  -- how many files match, those left out of `matched` included
  filesWithMatch : Nat := 0
  filesOpened : Nat := 0
  revision : String := ""
deriving DecidableEq, Inhabited

structure RepoResult where
  repo : String
  matched : List FileMatch
  filesWithMatch : Nat
  revision : String
deriving DecidableEq, Inhabited

structure Page where
  results : List RepoResult := []
  filesOpened : Nat := 0
  reposScanned : Nat := 0
  nextOffset : Nat := 0
  otherRepos : Nat := 0
  nextLimit : Nat := 0
deriving DecidableEq, Inhabited

structure Options where
  -- only files whose path matches, and none whose path matches; empty for all and for none
  files : String := ""
  excludeFiles : String := ""
  ignoreCase : Bool := false
  context : Nat := 0
  -- files with matches to skip, and to keep, in each repository; zero keeps all
  offset : Nat := 0
  limit : Nat := 0
deriving DecidableEq, Inhabited

def lineTexts : Reader (List String) :=
  Reader.list (Reader.string "a string")

def LineMatch.shape : Shape LineMatch where
  name := "LineMatch"
  start := { line := "", number := 0, before := [], after := [] }
  fields :=
    [needed "Line" (Reader.string "a string") fun m v => { m with line := v },
      needed "LineNumber" (Reader.count "usize") fun m v => { m with number := v },
      needed "Before" lineTexts fun m v => { m with before := v },
      needed "After" lineTexts fun m v => { m with after := v }]

def FileMatch.shape : Shape FileMatch where
  name := "FileMatch"
  start := { file := "", lines := [] }
  fields :=
    [needed "Filename" (Reader.string "a string") fun m v => { m with file := v },
      needed "Matches" (Reader.list LineMatch.shape.read) fun m v => { m with lines := v }]

def LineMatch.toValue (m : LineMatch) : Value :=
  .object [("Line", .text m.line), ("LineNumber", .count m.number),
    ("Before", .list (m.before.map .text)), ("After", .list (m.after.map .text))]

def FileMatch.toValue (m : FileMatch) : Value :=
  .object [("Filename", .text m.file), ("Matches", .list (m.lines.map LineMatch.toValue))]

def RepoResult.toValue (r : RepoResult) : Value :=
  .object [("Repo", .text r.repo), ("Matches", .list (r.matched.map FileMatch.toValue)),
    ("FilesWithMatch", .count r.filesWithMatch), ("Revision", .text r.revision)]

end FleetSearch.Search
