import FleetSearch.Disk.Path
import FleetSearch.Git.Object

set_option autoImplicit false

namespace FleetSearch.Git

structure Leaf where
  path : List String
  kind : EntryKind
  id : Id
deriving DecidableEq, Inhabited

namespace Index

def modeOf : EntryKind -> Nat
  | .file => 0o100644
  | .link => 0o120000
  | .folder => 0o040000
  | .module => 0o160000

def kindOf? (mode : Nat) : Option EntryKind :=
  if mode / 0o10000 = 0o10 then some .file
  else if mode / 0o10000 = 0o12 then some .link
  else if mode / 0o10000 = 0o16 then some .module
  else none

def word32 (n : Nat) : List UInt8 :=
  [n / 16777216, n / 65536, n / 256, n].map Nat.toUInt8

def hexValue (c : Char) : Nat :=
  if c.isDigit then c.toNat - 48 else c.toNat - 87

def idBytes : List Char -> List UInt8
  | a :: b :: rest => (16 * hexValue a + hexValue b).toUInt8 :: idBytes rest
  | _ => []

def signature : List UInt8 := Object.ascii "DIRC"

def padding (length : Nat) : Nat :=
  8 - (62 + length) % 8

-- An entry without times and sizes, so every file counts as changed.
def writeEntry (leaf : Leaf) : List UInt8 :=
  let path := Object.ascii ("/".intercalate leaf.path)
  List.replicate 24 0 ++ word32 (modeOf leaf.kind) ++ List.replicate 12 0
    ++ idBytes leaf.id.toList ++ (word32 (min path.length 4095)).drop 2
    ++ path ++ List.replicate (padding path.length) 0

-- The checksum at the end is left out, which zeros say.
def write (leaves : List Leaf) : List UInt8 :=
  signature ++ word32 2 ++ word32 leaves.length ++ leaves.flatMap writeEntry ++ List.replicate 20 0

def readEntry? (bytes : List UInt8) : Option (Leaf × List UInt8) := do
  let mode := Stream.bigEndian ((bytes.drop 24).take 4)
  let id := (bytes.drop 40).take 20
  let rest := bytes.drop 62
  let path := rest.takeWhile (· != 0)
  if path.isEmpty || id.length < 20 then none
  else
    let names := (Disk.Path.pieces (Text.Utf8.decode path).toList).map String.ofList
    return ({ path := names, kind := <- kindOf? mode, id := hexOf id },
      rest.drop (path.length + padding path.length))

def readEntries? : (count : Nat) -> List UInt8 -> Option (List Leaf)
  | 0, _ => some []
  | count + 1, bytes => do
    let (leaf, rest) <- readEntry? bytes
    return leaf :: (<- readEntries? count rest)

def read? (bytes : List UInt8) : Option (List Leaf) :=
  if bytes.take 4 != signature || Stream.bigEndian ((bytes.drop 4).take 4) != 2 then none
  else
    let count := Stream.bigEndian ((bytes.drop 8).take 4)
    if bytes.length < count then none else readEntries? count (bytes.drop 12)

end Index

end FleetSearch.Git
