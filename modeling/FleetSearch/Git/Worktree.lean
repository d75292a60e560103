import FleetSearch.Disk.Node
import FleetSearch.Git.Fault
import FleetSearch.Git.Index
import FleetSearch.Git.Repository

set_option autoImplicit false

/-!
Working trees: the files of a commit as they lie in a directory. Contents are written as they are
stored, no file is executable, and another repository is an empty directory.
-/

namespace FleetSearch.Git

open FleetSearch.Disk

def lowered (s : List Char) : List Char := s.map Char.toLower

def isOwnName (name : List Char) : Bool :=
  ([".git".toList, "git~1".toList].find? fun own => own.isPrefixOf (lowered name)).any fun own =>
    match name.drop own.length with
    | '\\' :: _ => true
    | ':' :: _ => true
    | rest => rest.all fun c => c = ' ' || c = '.'

def isSafeName (name : String) : Bool :=
  !name.isEmpty && name != "." && name != ".." && !name.contains '/' && !isOwnName name.toList

def Leaf.isSafe (l : Leaf) : Bool :=
  l.path.all isSafeName

def Leaf.shown (l : Leaf) : String :=
  "/".intercalate l.path

namespace Repository

mutual

def leavesBelow (r : Repository) (path : List String) :
    (fuel : Nat) -> Id -> Except Fault (List Leaf)
  | 0, id => .error (.missingObject id)
  | fuel + 1, id =>
    match r.object? id with
    | some (.tree entries) => leavesAmong r path fuel entries
    | _ => .error (.missingObject id)
termination_by fuel => (fuel, 0)

def leavesAmong (r : Repository) (path : List String) (fuel : Nat) :
    List TreeEntry -> Except Fault (List Leaf)
  | [] => .ok []
  | e :: rest => do
    let here <-
      if e.kind = .folder then leavesBelow r (path ++ [e.name]) fuel e.id
      else pure [{ path := path ++ [e.name], kind := e.kind, id := e.id }]
    return here ++ (<- leavesAmong r path fuel rest)
termination_by entries => (fuel, entries.length + 1)

end

def leaves (r : Repository) (tree : Id) : Except Fault (List Leaf) :=
  r.leavesBelow [] (r.objects.length + 1) tree

def nodeOf (r : Repository) (l : Leaf) : Except Fault Node :=
  if l.kind = .module then .ok (.dir [])
  else
    match r.object? l.id with
    | some (.blob data) =>
      if l.kind = .link then .ok (.link (Text.Utf8.decode data.toList)) else .ok (.file data)
    | _ => .error (.missingObject l.id)

end Repository

def isFile : Node -> Bool
  | .dir _ => false
  | _ => true

def removeFile : (path : List String) -> Node -> Node
  | [], tree => tree
  | [name], tree =>
    if (tree.child? name).any isFile then tree.erase [name] else tree
  | name :: rest, tree =>
    match tree.child? name with
    | none => tree
    | some below =>
      match removeFile rest below with
      | .dir [] => tree.erase [name]
      | below => .dir (Node.putEntry name below tree.entries)

def place (files : Node) (item : Leaf × Node) : Node :=
  if item.1.kind = .module && (files.get? item.1.path).any Node.isDir then files
  else files.put item.1.path item.2

-- Writes the files of a tree, whatever lies where they go, and removes those of `tracked` that it
-- does not have.
def replaceFiles (tracked : List Leaf) (items : List (Leaf × Node)) (files : Node) : Node :=
  let gone := tracked.filter fun l => !items.any fun item => item.1.path == l.path
  items.foldl place (gone.foldl (fun files l => removeFile l.path files) files)

namespace Repository

-- Nothing is written if there is anything that may not be.
def checkout (r : Repository) (tree : Id) (tracked : List Leaf) (files : Node) :
    Except Fault (List Leaf × Node) := do
  let leaves <- r.leaves tree
  match leaves.find? fun l => !l.isSafe with
  | some l => throw (.badPath l.shown)
  | none =>
    let nodes <- leaves.mapM r.nodeOf
    return (leaves, replaceFiles tracked (leaves.zip nodes) files)

end Repository

end FleetSearch.Git
