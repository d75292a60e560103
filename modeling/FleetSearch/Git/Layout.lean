import FleetSearch.Git.Workspace

set_option autoImplicit false

/-!
Where a repository lies on a volume, and how it is read and written there. Objects are read loose,
never from packs, and an id is not held against the content of its object. Names and paths are
texts. A record of what a reference stood on before is neither read nor kept.
-/

namespace FleetSearch.Git

open FleetSearch.Disk

structure Site where
  tree : List String
  git : List String
  isBare : Bool := false
deriving DecidableEq

def pathOf (place : List String) : String :=
  "/".intercalate place

namespace Site

def isFileAt (v : Volume) (path : String) : Bool :=
  match v.find path with
  | .ok (.file _) => true
  | _ => false

def isRepository (v : Volume) (place : List String) : Bool :=
  let path := pathOf place
  isFileAt v (Path.join path "HEAD") && v.isDir (Path.join path "objects")
    && v.isDir (Path.join path "refs")

def readLink? (text : String) : Option String :=
  let word := "gitdir: ".toList
  if word.isPrefixOf text.toList then
    some (String.ofList ((Ref.dropSpaceEnd text.toList).drop word.length))
  else none

def inside? (v : Volume) (dir : String) : Option (List String) := do
  let path := Path.join dir ".git"
  let place <- (v.locate true path).toOption
  match v.root.get? place with
  | some (.file data) =>
    let link <- readLink? (Text.Utf8.decode data.toList)
    (v.locate true (Path.join dir link)).toOption
  | some _ => some place
  | none => none

def find? (v : Volume) (dir : String) : Option Site := do
  let tree <- (v.locate true dir).toOption
  match (inside? v dir).filter (isRepository v) with
  | some git => some { tree, git }
  | none => if isRepository v tree then some { tree, git := tree, isBare := true } else none

end Site

mutual

def filesBelow (path : List String) : Node -> List (List String × ByteArray)
  | .file data => [(path, data)]
  | .link _ => []
  | .dir entries => filesAmong path entries

def filesAmong (path : List String) : List (String × Node) -> List (List String × ByteArray)
  | [] => []
  | (name, node) :: rest => filesBelow (path ++ [name]) node ++ filesAmong path rest

end

def textOf (data : ByteArray) : List Char :=
  (Text.Utf8.decode data.toList).toList

def dirAt (v : Volume) (path : String) : Node :=
  ((v.find path).toOption).getD (.dir [])

def readLoose (v : Volume) (git : String) : List (String × Ref) :=
  let head := (v.readBytes (Path.join git "HEAD")).toOption.map fun data =>
    (Repository.headName, Ref.read (textOf data))
  head.toList ++ (filesBelow ["refs"] (dirAt v (Path.join git "refs"))).map fun (path, data) =>
    (pathOf path, Ref.read (textOf data))

def readPacked (v : Volume) (git : String) : Option (List (String × Id)) :=
  match v.readBytes (Path.join git "packed-refs") with
  | .ok data => Ref.readPacked (textOf data)
  | .error _ => some []

def readObjects (v : Volume) (git : String) : List (Id × ByteArray) :=
  (filesBelow [] (dirAt v (Path.join git "objects"))).filterMap fun (path, data) =>
    match path with
    | [first, rest] =>
      match takeId? (first ++ rest).toList with
      | some (id, []) => if first.length = 2 then some (id, data) else none
      | _ => none
    | _ => none

-- Settings that cannot be read, or that ask for more than is known here, are refused.
def readSettings (v : Volume) (git : String) : Option Config :=
  match v.readBytes (Path.join git "config") with
  | .error _ => some []
  | .ok data => do
    let settings <- Config.read? (textOf data)
    match settings.get? "core.repositoryformatversion" with
    | none => return settings
    | some version => if version = "0" || version = "1" then return settings else none

def Repository.read? (v : Volume) (site : Site) : Option Repository := do
  let git := pathOf site.git
  let settings <- readSettings v git
  return {
    loose := readLoose v git
    packed := readPacked v git
    objects := readObjects v git
    settings }

def openRepository (v : Volume) (dir : String) : Except Fault (Site × Repository) :=
  match Site.find? v dir with
  | none => .error (.notRepository dir)
  | some site =>
    match Repository.read? v site with
    | none => .error (.notRepository dir)
    | some r => .ok (site, r)

def readTracked (v : Volume) (site : Site) : List Leaf :=
  (((v.readBytes (Path.join (pathOf site.git) "index")).toOption.bind fun data =>
    Index.read? data.toList)).getD []

def readFiles (v : Volume) (site : Site) : Node :=
  match v.root.get? site.tree with
  | some (.dir entries) => .dir (entries.filter fun e => e.1 != ".git")
  | _ => .dir []

def Workspace.read (v : Volume) (site : Site) (repository : Repository) : Workspace where
  repository := repository
  tracked := readTracked v site
  files := readFiles v site
  isBare := site.isBare

def writeRef (git : Node) (ref : String × Ref) : Node :=
  match ref.2.write with
  | some text =>
    git.put ((Path.pieces ref.1.toList).map String.ofList) (.file text.toUTF8)
  | none => git

def objectPath (id : Id) : List String :=
  ["objects", String.ofList (id.toList.take 2), String.ofList (id.toList.drop 2)]

def writeObject (git : Node) (object : Id × ByteArray) : Node :=
  let path := objectPath object.1
  if (git.get? path).isSome then git else git.put path (.file object.2)

def Repository.write (r : Repository) (git : Node) : Node :=
  r.objects.foldl writeObject (r.loose.foldl writeRef git)

def Workspace.writeTree (w : Workspace) (old : Node) : Node :=
  match old.child? ".git" with
  | some own => .dir (Node.putEntry ".git" own w.files.entries)
  | none => w.files

def Workspace.write (w : Workspace) (v : Volume) (site : Site) : Volume :=
  let root :=
    if site.isBare then v.root
    else v.root.put site.tree (w.writeTree ((v.root.get? site.tree).getD (.dir [])))
  let git := w.repository.write ((root.get? site.git).getD (.dir []))
  let git := git.put ["index"] (.file (Index.write w.tracked).toByteArray)
  { root := root.put site.git git }

end FleetSearch.Git
