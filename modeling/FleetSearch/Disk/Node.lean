set_option autoImplicit false

/-!
Directory trees. The entries of a directory are in the order of their names, each name once. Names
are texts; there are no permissions and no times, so whatever is there can be read and replaced.
-/

namespace FleetSearch.Disk

inductive Node where
  | file (data : ByteArray)
  | link (target : String)
  | dir (entries : List (String × Node))
deriving Inhabited

namespace Node

def isDir : Node -> Bool
  | .dir _ => true
  | _ => false

def child? (name : String) : Node -> Option Node
  | .dir entries => entries.lookup name
  | _ => none

def get? : List String -> Node -> Option Node
  | [], node => some node
  | name :: rest, node => (node.child? name).bind (get? rest)

def putEntry (name : String) (node : Node) : List (String × Node) -> List (String × Node)
  | [] => [(name, node)]
  | (other, old) :: rest =>
    if name < other then (name, node) :: (other, old) :: rest
    else if name = other then (name, node) :: rest
    else (other, old) :: putEntry name node rest

def entries : Node -> List (String × Node)
  | .dir entries => entries
  | _ => []

def put : (tree : Node) -> List String -> Node -> Node
  | _, [], node => node
  | tree, name :: rest, node =>
    let below := (tree.child? name).getD (.dir [])
    .dir (putEntry name (put below rest node) tree.entries)

def erase : List String -> Node -> Node
  | [], tree => tree
  | [name], .dir entries => .dir (entries.filter fun e => e.1 != name)
  | name :: rest, .dir entries =>
    match entries.lookup name with
    | some below => .dir (putEntry name (erase rest below) entries)
    | none => .dir entries
  | _, tree => tree

end Node

end FleetSearch.Disk
