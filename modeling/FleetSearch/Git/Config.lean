import FleetSearch.Git.Ref

set_option autoImplicit false

/-!
Settings in sections. The name of a setting is that of its section, of its subsection if it has one,
and its own, with dots between them; of these only the subsection keeps its letter case.
-/

namespace FleetSearch.Git

abbrev Config := List (String × String)

namespace Config

-- The last value of a name counts.
def get? (c : Config) (name : String) : Option String :=
  c.reverse.lookup name

def all (c : Config) (name : String) : List String :=
  (c.filter fun e => e.1 == name).map (·.2)

def isBlank (c : Char) : Bool := c = ' ' || c = '\t'

def isKeyChar (c : Char) : Bool := c.isAlphanum || c = '-'

def goesOn (line : List Char) : Bool :=
  (line.reverse.takeWhile (· = '\\')).length % 2 = 1

def joinLines : List (List Char) -> List (List Char)
  | [] => []
  | line :: rest =>
    match joinLines rest with
    | [] => [line]
    | next :: more =>
      if goesOn line then (line.dropLast ++ next) :: more else line :: next :: more

def unescape? : Char -> Option Char
  | 'n' => some '\n'
  | 't' => some '\t'
  | 'b' => some '\x08'
  | '"' => some '"'
  | '\\' => some '\\'
  | _ => none

def valueChars : (quoted : Bool) -> List Char -> Option (List (Char × Bool))
  | quoted, [] => if quoted then none else some []
  | quoted, '"' :: rest => valueChars (!quoted) rest
  | quoted, '\\' :: c :: rest => do
    let c <- unescape? c
    return (c, true) :: (<- valueChars quoted rest)
  | quoted, c :: rest =>
    if !quoted && (c = '#' || c = ';') then some []
    else (valueChars quoted rest).map ((c, quoted) :: ·)

def readValue? (s : List Char) : Option String := do
  let chars <- valueChars false (s.dropWhile isBlank)
  let kept := (chars.reverse.dropWhile fun (c, quoted) => !quoted && isBlank c).reverse
  return String.ofList (kept.map (·.1))

def readSetting? (section? : String) (s : List Char) : Option (String × String) := do
  let key := s.takeWhile isKeyChar
  let rest := (s.drop key.length).dropWhile isBlank
  if !key.head?.any Char.isAlpha then none
  else
    let name := section? ++ "." ++ String.ofList (key.map Char.toLower)
    match rest with
    | [] => return (name, "true")
    | '=' :: value => return (name, <- readValue? value)
    | c :: _ => if c = '#' || c = ';' then return (name, "true") else none

def readQuoted? : List Char -> Option (List Char × List Char)
  | '"' :: rest => some ([], rest)
  | '\\' :: c :: rest => (readQuoted? rest).map fun (s, after) => (c :: s, after)
  | c :: rest => (readQuoted? rest).map fun (s, after) => (c :: s, after)
  | [] => none

def readSection? (s : List Char) : Option (String × List Char) := do
  let name := s.takeWhile fun c => isKeyChar c || c = '.'
  let lower := String.ofList (name.map Char.toLower)
  match (s.drop name.length).dropWhile isBlank with
  | ']' :: rest => return (lower, rest)
  | '"' :: rest =>
    match <- readQuoted? rest with
    | (sub, ']' :: rest) => return (lower ++ "." ++ String.ofList sub, rest)
    | _ => none
  | _ => none

def readLine? (section? : String) (line : List Char) : Option (String × Config) := do
  match line.dropWhile isBlank with
  | '[' :: rest =>
    let (name, rest) <- readSection? rest
    match rest.dropWhile isBlank with
    | [] => return (name, [])
    | c :: more =>
      if c = '#' || c = ';' then return (name, [])
      else return (name, [<- readSetting? name (c :: more)])
  | [] => return (section?, [])
  | c :: rest =>
    if c = '#' || c = ';' then return (section?, [])
    else return (section?, [<- readSetting? section? (c :: rest)])

def readLines? : (section? : String) -> List (List Char) -> Option Config
  | _, [] => some []
  | name, line :: rest => do
    let (name, settings) <- readLine? name line
    return settings ++ (<- readLines? name rest)

def read? (text : List Char) : Option Config :=
  readLines? "" (joinLines (Text.lines text))

def escape (c : Char) : List Char :=
  match c with
  | '"' => ['\\', '"']
  | '\\' => ['\\', '\\']
  | '\n' => ['\\', 'n']
  | '\t' => ['\\', 't']
  | c => [c]

def quoted (s : String) : String :=
  "\"" ++ String.ofList (s.toList.flatMap escape) ++ "\""

def writeSection (head : String) (settings : List (String × String)) : String :=
  String.join (("[" ++ head ++ "]\n") :: settings.map fun (key, value) =>
    "\t" ++ key ++ " = " ++ quoted value ++ "\n")

end Config

end FleetSearch.Git
