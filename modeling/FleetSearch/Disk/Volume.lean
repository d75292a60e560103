import FleetSearch.Disk.Node
import FleetSearch.Disk.Path

set_option autoImplicit false

/-!
A directory tree that paths lead into. Relative paths start at its root; what lies above or beside
the root is not there.
-/

namespace FleetSearch.Disk

inductive Fault where
  | missing
  | present
  | notDirectory
  | isDirectory
  | linkLoop
  | nameTooLong
  | zeroByte
  | notText
deriving DecidableEq

def Fault.message : Fault -> String
  | .missing => "No such file or directory (os error 2)"
  | .present => "File exists (os error 17)"
  | .notDirectory => "Not a directory (os error 20)"
  | .isDirectory => "Is a directory (os error 21)"
  | .linkLoop => "Too many levels of symbolic links (os error 40)"
  | .nameTooLong => "File name too long (os error 36)"
  | .zeroByte => "file name contained an unexpected NUL byte"
  | .notText => "stream did not contain valid UTF-8"

structure Volume where
  root : Node
deriving Inhabited

namespace Volume

def empty : Volume := { root := .dir [] }

def mostLinks : Nat := 40
def longestName : Nat := 255

def steps (path : String) : List String :=
  let pieces := (Path.pieces path.toList).map String.ofList
  let tail := if path.toList.getLast? == some '/' then ["."] else []
  pieces.filter (! ·.isEmpty) ++ tail

-- The names on the way from the root to where `todo` leads from `here`. At a link with `target` the
-- way goes on with `jump`.
def followFrom (v : Volume) (last : Bool)
    (jump : (here : List String) -> (target : String) -> (rest : List String) ->
      Except Fault (List String)) (here : List String) :
    (todo : List String) -> Except Fault (List String)
  | [] => .ok here
  | piece :: rest =>
    match v.root.get? here with
    | none => .error .missing
    | some node =>
      if !node.isDir then .error .notDirectory
      else if piece = "." then v.followFrom last jump here rest
      else if piece = ".." then
        if here.isEmpty then .error .missing else v.followFrom last jump here.dropLast rest
      else if longestName < piece.utf8ByteSize then .error .nameTooLong
      else
        match node.child? piece with
        | none => .error .missing
        | some (.link target) =>
          if rest.isEmpty && !last then .ok (here ++ [piece]) else jump here target rest
        | some _ => v.followFrom last jump (here ++ [piece]) rest

def follow (v : Volume) (last : Bool) : (links : Nat) -> (here todo : List String) ->
    Except Fault (List String)
  | 0 => v.followFrom last fun _ _ _ => .error .linkLoop
  | links + 1 => v.followFrom last fun here target rest =>
    if Path.isAbsolute target || target.isEmpty then .error .missing
    else v.follow last links here (steps target ++ rest)

def locate (v : Volume) (last : Bool) (path : String) : Except Fault (List String) :=
  if path.toList.contains '\x00' then .error .zeroByte
  else if path.isEmpty || Path.isAbsolute path then .error .missing
  else v.follow last mostLinks [] (steps path)

def find (v : Volume) (path : String) : Except Fault Node := do
  let place <- v.locate true path
  match v.root.get? place with
  | some node => return node
  | none => throw .missing

def isPresent (v : Volume) (path : String) : Bool :=
  (v.find path).toOption.isSome

def isDir (v : Volume) (path : String) : Bool :=
  ((v.find path).toOption.map Node.isDir).getD false

def readBytes (v : Volume) (path : String) : Except Fault ByteArray := do
  match <- v.find path with
  | .file data => return data
  | _ => throw .isDirectory

def readText (v : Volume) (path : String) : Except Fault String := do
  match String.fromUTF8? (<- v.readBytes path) with
  | some text => return text
  | none => throw .notText

def makeDir (v : Volume) (path : String) : Except Fault Volume := do
  let up := (Path.parent path).getD ""
  match Path.fileName path with
  | none => throw .present
  | some name =>
    let place <- if up.isEmpty then pure [] else v.locate true up
    match v.root.get? place with
    | none => throw .missing
    | some node =>
      if !node.isDir then throw .notDirectory
      else if longestName < name.utf8ByteSize then throw .nameTooLong
      else if (node.child? name).isSome then throw .present
      else return { root := v.root.put (place ++ [name]) (.dir []) }

def makeDirsFrom : (fuel : Nat) -> Volume -> String -> Except Fault Volume
  | 0, _, _ => .error .missing
  | fuel + 1, v, path =>
    if path.isEmpty then .ok v
    else if Path.isAbsolute path then .error .missing
    else
      match v.makeDir path with
      | .ok v => .ok v
      | .error .missing => do
        let v <- makeDirsFrom fuel v ((Path.parent path).getD "")
        v.makeDir path
      | .error e => if v.isDir path then .ok v else .error e

def makeDirs (v : Volume) (path : String) : Except Fault Volume :=
  makeDirsFrom (path.length + 1) v path

def write (v : Volume) (path : String) (node : Node) : Except Fault Volume := do
  match node with
  | .dir _ => v.makeDirs path
  | _ =>
    let up := (Path.parent path).getD ""
    let v <- v.makeDirs up
    match Path.fileName path with
    | none => throw .isDirectory
    | some name =>
      let place <- if up.isEmpty then pure [] else v.locate true up
      let there := v.root.get? (place ++ [name])
      match node, there with
      | .file _, some (.link _) =>
        let place <- v.locate true path
        return { root := v.root.put place node }
      | .file _, some (.dir _) => throw .isDirectory
      | _, _ => return { root := v.root.put (place ++ [name]) node }

def remove (v : Volume) (path : String) : Except Fault Volume := do
  let place <- v.locate false path
  return { root := v.root.erase place }

end Volume

end FleetSearch.Disk
