import FleetSearch.Git.History
import FleetSearch.Git.Stream
import FleetSearch.Text.Count
import FleetSearch.Text.Utf8

set_option autoImplicit false

namespace FleetSearch.Git

inductive EntryKind where
  | file
  | link
  | folder
  -- the commit of another repository
  | module
deriving DecidableEq, Inhabited

structure TreeEntry where
  name : String
  kind : EntryKind
  id : Id
deriving DecidableEq, Inhabited

structure Commit where
  tree : Id
  parents : List Id
deriving DecidableEq, Inhabited

-- the one of the core library, whatever else is in scope
local instance decEqBytes : DecidableEq ByteArray := ByteArray.instDecidableEq

inductive Object where
  | blob (data : ByteArray)
  | tree (entries : List TreeEntry)
  | commit (commit : Commit)
  | tag (target : Id)
deriving DecidableEq, Inhabited

def hexDigit (n : Nat) : Char :=
  Char.ofNat (if n < 10 then 48 + n else 87 + n)

def hexOf (bytes : List UInt8) : Id :=
  String.ofList (bytes.flatMap fun b => [hexDigit (b.toNat / 16), hexDigit (b.toNat % 16)])

def isHexDigit (c : Char) : Bool :=
  c.isDigit || ('a' <= c && c <= 'f') || ('A' <= c && c <= 'F')

def takeId? (s : List Char) : Option (Id × List Char) :=
  let digits := s.take 40
  if digits.length = 40 && digits.all isHexDigit then
    some (String.ofList (digits.map Char.toLower), s.drop 40)
  else none

namespace Object

def ascii (s : String) : List UInt8 :=
  s.toUTF8.toList

def dropWord (word : String) (bytes : List UInt8) : Option (List UInt8) :=
  let w := ascii word
  if w.isPrefixOf bytes then some (bytes.drop w.length) else none

def takeLine? (key : String) (bytes : List UInt8) : Option (String × List UInt8) := do
  let rest <- dropWord (key ++ " ") bytes
  let value := rest.takeWhile (· != 10)
  match rest.drop value.length with
  | _ :: after => return (Text.Utf8.decode value, after)
  | [] => none

def takeIdLine? (key : String) (bytes : List UInt8) : Option (Id × List UInt8) := do
  let (value, after) <- takeLine? key bytes
  match takeId? value.toList with
  | some (id, []) => return (id, after)
  | _ => none

def takeParents : (fuel : Nat) -> List UInt8 -> List Id × List UInt8
  | 0, bytes => ([], bytes)
  | fuel + 1, bytes =>
    match takeIdLine? "parent" bytes with
    | none => ([], bytes)
    | some (id, after) =>
      let (ids, rest) := takeParents fuel after
      (id :: ids, rest)

def isSignature (s : String) : Bool :=
  let after := s.toList.dropWhile (· != '<')
  !after.isEmpty && after.contains '>'

def readCommit? (bytes : List UInt8) : Option Commit := do
  let (root, bytes) <- takeIdLine? "tree" bytes
  let (parents, bytes) := takeParents bytes.length bytes
  let (author, bytes) <- takeLine? "author" bytes
  let (committer, _) <- takeLine? "committer" bytes
  if isSignature author && isSignature committer then return { tree := root, parents } else none

def readTag? (bytes : List UInt8) : Option Id :=
  (takeIdLine? "object" bytes).map (·.1)

def kindOf? (mode : List UInt8) : Option EntryKind :=
  match Text.Utf8.decode mode with
  | "40000" => some .folder
  | "040000" => some .folder
  | "120000" => some .link
  | "160000" => some .module
  | "100644" => some .file
  | "100664" => some .file
  | "100755" => some .file
  | _ => none

def readTree? : (fuel : Nat) -> List UInt8 -> Option (List TreeEntry)
  | _, [] => some []
  | 0, _ => none
  | fuel + 1, bytes => do
    let mode := bytes.takeWhile (· != 32)
    let rest := bytes.drop (mode.length + 1)
    let name := rest.takeWhile (· != 0)
    let rest := rest.drop (name.length + 1)
    let id := rest.take 20
    if name.isEmpty || id.length < 20 then none
    else
      let kind <- kindOf? mode
      return { name := Text.Utf8.decode name, kind, id := hexOf id }
        :: (<- readTree? fuel (rest.drop 20))

def read? (bytes : List UInt8) : Option Object := do
  let kind := bytes.takeWhile (· != 32)
  let rest := bytes.drop (kind.length + 1)
  let size := rest.takeWhile (· != 0)
  let content := rest.drop (size.length + 1)
  let length <- Text.Count.parse? (Text.Utf8.decode size).toList
  if length != content.length then none
  else
    match Text.Utf8.decode kind with
    | "blob" => return .blob content.toByteArray
    | "tree" => return .tree (<- readTree? content.length content)
    | "commit" => return .commit (<- readCommit? content)
    | "tag" => return .tag (<- readTag? content)
    | _ => none

def unpack? (packed : ByteArray) : Option Object :=
  (Stream.unpack packed.toList).bind read?

end Object

end FleetSearch.Git
