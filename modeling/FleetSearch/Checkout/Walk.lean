import FleetSearch.Disk.Volume
import FleetSearch.Json.Value
import FleetSearch.Text.Blank

set_option autoImplicit false

/-!
The files of a checkout, split into those that are searched and those that are not, in the order
of their paths.
-/

namespace FleetSearch.Checkout

open FleetSearch.Disk

inductive Exclusion where
  | dotFile
  | notText
  | tooLarge
deriving DecidableEq

def Exclusion.reason : Exclusion -> String
  | .dotFile => "Dot file"
  | .notText => "Not a text file"
  | .tooLarge => "File too large"

structure SearchFile where
  -- the path from the checkout on, as results show it
  name : String
  path : String
deriving DecidableEq, Inhabited

structure Excluded where
  name : String
  why : Exclusion
deriving DecidableEq

structure Listing where
  files : List SearchFile := []
  excluded : List Excluded := []
deriving DecidableEq

def largestFile : Nat := 1048576

def ignoredDirs : List String :=
  [".git", ".hg", ".svn", "node_modules", "target", "__pycache__", ".venv"]

def textNames : List String :=
  ["makefile", "dockerfile", "rakefile", "gemfile", "readme", "license", "authors", "changelog",
    ".gitignore", ".editorconfig"]

def textExtensions : List String :=
  ["rs", "py", "js", "mjs", "ts", "tsx", "jsx", "go", "java", "c", "cpp", "cc", "h", "hpp", "cs",
    "rb", "php", "swift", "kt", "scala", "lua", "pl", "sh", "bash", "zsh", "sql", "html", "css",
    "scss", "less", "xml", "json", "yaml", "yml", "toml", "ini", "cfg", "conf", "md", "rst", "txt",
    "proto", "graphql", "vue", "svelte", "ex", "exs", "erl", "hs", "ml", "clj", "el", "vim", "tf",
    "nix", "zig", "dart", "jl", "lock", "csv"]

def isTextName (name : String) : Bool :=
  textNames.any (fun word => Text.isWord word name.toList)
    || match Path.extension name with
      | none => false
      | some ext => textExtensions.any fun word => Text.isWord word ext.toList

def insertByName {A : Type} (name : String) (a : A) : List (String × A) -> List (String × A)
  | [] => [(name, a)]
  | (other, b) :: rest =>
    if other < name then (other, b) :: insertByName name a rest
    else (name, a) :: (other, b) :: rest

mutual

-- The regular files of a tree with the names that lead to them. A directory is gone through in the
-- order of the names, whatever the order of its entries.
def filesBelow (names : List String) : Node -> List (List String × ByteArray)
  | .file data => [(names, data)]
  | .link _ => []
  | .dir entries => (branches names entries).flatMap Prod.snd

def branches (names : List String) :
    List (String × Node) -> List (String × List (List String × ByteArray))
  | [] => []
  | (name, node) :: rest =>
    if node.isDir && ignoredDirs.contains name then branches names rest
    else insertByName name (filesBelow (names ++ [name]) node) (branches names rest)

end

def shownName (names : List String) : String :=
  String.ofList ((("/".intercalate names).toList).map fun c => if c = '\\' then '/' else c)

def isHidden (shown : String) : Bool :=
  (Path.pieces shown.toList).any fun piece => piece.head? == some '.'

def exclusion (excludeDotFiles : Bool) (shown fileName : String) (size : Nat) :
    Option Exclusion :=
  if excludeDotFiles && isHidden shown then some .dotFile
  else if !isTextName fileName then some .notText
  else if largestFile < size then some .tooLarge
  else none

def Listing.add (excludeDotFiles : Bool) (dir : String) (file : List String × ByteArray)
    (l : Listing) : Listing :=
  let shown := shownName file.1
  let path := file.1.foldl Path.join dir
  match exclusion excludeDotFiles shown ((Path.fileName path).getD "") file.2.size with
  | some why => { l with excluded := { name := shown, why } :: l.excluded }
  | none => { l with files := { name := shown, path } :: l.files }

def list (excludeDotFiles : Bool) (dir : String) (files : List (List String × ByteArray)) :
    Listing :=
  files.foldr (Listing.add excludeDotFiles dir) {}

/-- A checkout that is not there has no files. A link to a directory is entered where it is the
checkout itself, and nowhere else. -/
def walk (v : Volume) (dir : String) (excludeDotFiles : Bool) : Listing :=
  let files := do
    let place <- v.locate false dir
    match v.root.get? place with
    | some (.link _) =>
      match <- v.find dir with
      | .dir entries => return filesBelow [] (.dir entries)
      | _ => return []
    | some node => return filesBelow [] node
    | none => return []
  list excludeDotFiles dir (files.toOption.getD [])

def Excluded.toValue (e : Excluded) : Json.Value :=
  .object [("Filename", .text e.name), ("Reason", .text e.why.reason)]

end FleetSearch.Checkout
