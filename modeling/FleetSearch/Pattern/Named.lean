import FleetSearch.Pattern.Tree
import FleetSearch.Unicode.Category
import FleetSearch.Unicode.Property
import FleetSearch.Unicode.Script
import FleetSearch.Unicode.Segment

set_option autoImplicit false

/-!
The sets of characters that patterns name. Names are compared without regard to letter case,
blanks, hyphens, underscores and a leading `is`.
-/

namespace FleetSearch.Pattern

open FleetSearch.Unicode

def asciiSet (name : String) : CharSet :=
  match name with
  | "alnum" => { ranges := [(0x30, 0x39), (0x41, 0x5A), (0x61, 0x7A)] }
  | "alpha" => { ranges := [(0x41, 0x5A), (0x61, 0x7A)] }
  | "ascii" => { ranges := [(0, 0x7F)] }
  | "blank" => { ranges := [(9, 9), (0x20, 0x20)] }
  | "cntrl" => { ranges := [(0, 0x1F), (0x7F, 0x7F)] }
  | "digit" => { ranges := [(0x30, 0x39)] }
  | "graph" => { ranges := [(0x21, 0x7E)] }
  | "lower" => { ranges := [(0x61, 0x7A)] }
  | "print" => { ranges := [(0x20, 0x7E)] }
  | "punct" => { ranges := [(0x21, 0x2F), (0x3A, 0x40), (0x5B, 0x60), (0x7B, 0x7E)] }
  | "space" => { ranges := [(9, 0xD), (0x20, 0x20)] }
  | "upper" => { ranges := [(0x41, 0x5A)] }
  | "word" => { ranges := [(0x30, 0x39), (0x41, 0x5A), (0x5F, 0x5F), (0x61, 0x7A)] }
  | _ => { ranges := [(0x30, 0x39), (0x41, 0x46), (0x61, 0x66)] }

def isMark (c : Char) : Bool :=
  c = ' ' || c = '_' || c = '-'

def plain (s : List Char) : List Char :=
  ((s.filter fun c => !isMark c && c.val < 0x80)).map Char.toLower

-- The form in which names are compared. The name `isc` is no `c` with `is` before it.
def comparable (name : String) : List Char :=
  match name.toList with
  | i :: s :: rest =>
    if i.toLower = 'i' && s.toLower = 's' then
      if plain rest = ['c'] then ['i', 's', 'c'] else plain rest
    else plain (i :: s :: rest)
  | short => plain short

def isNamed (names : List String) (wanted : List Char) : Bool :=
  names.any fun n => plain n.toList == wanted

def property? (wanted : List Char) : Option CharSet :=
  (properties.find? fun p => isNamed p.1 wanted).map fun p => CharSet.ofText p.2

def isOtherProperty (wanted : List Char) : Bool :=
  otherProperties.any (isNamed · wanted)

inductive Family where
  | category
  | script
  | scriptExtension
  | age
  | grapheme
  | word
  | sentence
deriving DecidableEq

def families : List (List String × Family) :=
  [(["gc", "General_Category"], .category), (["sc", "Script"], .script),
    (["scx", "Script_Extensions"], .scriptExtension), (["age", "Age"], .age),
    (["GCB", "Grapheme_Cluster_Break"], .grapheme), (["WB", "Word_Break"], .word),
    (["SB", "Sentence_Break"], .sentence)]

def family? (wanted : List Char) : Option Family :=
  (families.find? fun f => isNamed f.1 wanted).map Prod.snd

def category? (wanted : List Char) : Option (Except Cause CharSet) :=
  if wanted = "any".toList then some (.ok CharSet.everything)
  else if wanted = "assigned".toList then some (.ok (withCategory ["Cn"]).complement)
  else if wanted = "ascii".toList then some (.ok (CharSet.ofRange 0 0x7F))
  else
    (categories.find? fun c => isNamed c.names wanted).map fun c =>
      if c.covers.isEmpty then .error .propertyValueUnknown else .ok (withCategory c.covers)

-- Values that stand for all characters without a value of their own; they name no set.
def remainders : List String := ["Zzzz", "XX"]

def valueIn? (names : List (List String)) (setAt : Nat -> CharSet) (wanted : List Char) :
    Option (Except Cause CharSet) :=
  (names.findIdx? fun n => isNamed n wanted).map fun p =>
    if (names[p]?.getD []).any remainders.contains || (setAt p).ranges.isEmpty then
      .error .propertyValueUnknown
    else .ok (setAt p)

-- An age covers the characters of all versions up to it. The first place is that of characters that
-- are not assigned.
def ofAge (p : Nat) : CharSet :=
  withPlace ageRuns fun q => 0 < q && q <= p + 1

def valueSet? (family : Family) (wanted : List Char) : Option (Except Cause CharSet) :=
  match family with
  | .category => category? wanted
  | .script => valueIn? scriptNames withScript wanted
  | .scriptExtension => valueIn? scriptNames withExtension wanted
  | .age => valueIn? ageNames ofAge wanted
  | .grapheme => valueIn? graphemeNames (fun p => withPlace graphemeRuns (· == p)) wanted
  | .word => valueIn? wordNames (fun p => withPlace wordRuns (· == p)) wanted
  | .sentence => valueIn? sentenceNames (fun p => withPlace sentenceRuns (· == p)) wanted

def categoriesFirst : List (List Char) :=
  [['c', 'f'], ['s', 'c'], ['l', 'c']]

def singleName (wanted : List Char) : Except Cause CharSet :=
  let known :=
    if categoriesFirst.contains wanted then none
    else
      match property? wanted with
      | some set => some (.ok set)
      | none =>
        if isOtherProperty wanted || (family? wanted).isSome then some (.error .propertyUnknown)
        else none
  (known.or ((category? wanted).or (valueSet? .script wanted))).getD (.error .propertyUnknown)

def nameAndValue (name value : List Char) : Except Cause CharSet :=
  match family? name with
  | some family => (valueSet? family value).getD (.error .propertyValueUnknown)
  | none =>
    if (property? name).isSome || isOtherProperty name then .error .propertyValueUnknown
    else .error .propertyUnknown

def PropertyClass.set (c : PropertyClass) : Except Cause CharSet :=
  match c.value with
  | none => singleName (comparable c.name)
  | some value => nameAndValue (comparable c.name) (comparable value)

end FleetSearch.Pattern
