set_option autoImplicit false

/-!
Streams of stored blocks: a two-byte header, blocks that hold their bytes as they are, and a
checksum. A stream with a block that is compressed is not read.
-/

namespace FleetSearch.Git.Stream

def word16 (low high : UInt8) : Nat :=
  low.toNat + 256 * high.toNat

def blocks : (fuel : Nat) -> List UInt8 -> Option (List UInt8 × List UInt8)
  | fuel + 1, kind :: l0 :: l1 :: n0 :: n1 :: rest =>
    let length := word16 l0 l1
    if kind.toNat / 2 % 4 != 0 then none
    else if length + word16 n0 n1 != 65535 then none
    else if rest.length < length then none
    else
      let data := rest.take length
      let after := rest.drop length
      if kind.toNat % 2 = 1 then some (data, after)
      else (blocks fuel after).map fun (more, after) => (data ++ more, after)
  | _, _ => none

def checksumBase : Nat := 65521

def checksum (bytes : List UInt8) : Nat :=
  let (a, b) := bytes.foldl (fun (a, b) byte =>
    let a := (a + byte.toNat) % checksumBase
    (a, (b + a) % checksumBase)) (1, 0)
  65536 * b + a

def bigEndian (bytes : List UInt8) : Nat :=
  bytes.foldl (fun n b => 256 * n + b.toNat) 0

def unpack (bytes : List UInt8) : Option (List UInt8) :=
  match bytes with
  | method :: flags :: rest =>
    if method.toNat % 16 != 8 || (256 * method.toNat + flags.toNat) % 31 != 0 then none
    else
      match blocks rest.length rest with
      | none => none
      | some (data, after) => if bigEndian (after.take 4) = checksum data then some data else none
  | _ => none

end FleetSearch.Git.Stream
