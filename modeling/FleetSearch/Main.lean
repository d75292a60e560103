import FleetSearch.Catalog.Read
import FleetSearch.Web.Api

set_option autoImplicit false

/-!
A service in memory, driven by lines. The first line is the catalog; each line after it is a
command:

    put PATH TEXT      writes a file
    get TARGET         sends a request
    post TARGET FORM   sends a form
    wait MILLIS        lets time pass
-/

namespace FleetSearch.Shell

inductive Command where
  | put (path text : String)
  | send (request : Web.Request)
  | wait (millis : Nat)
  | unknown

def splitWord (s : List Char) : String × List Char :=
  let word := s.takeWhile (· != ' ')
  (String.ofList word, s.drop (word.length + 1))

def Command.read (line : String) : Command :=
  let (verb, rest) := splitWord (Text.trim line.toList)
  let (first, more) := splitWord rest
  match verb with
  | "put" => .put first (String.ofList more)
  | "get" => .send (.ofTarget "GET" first)
  | "post" => .send (.ofTarget "POST" first Web.formType (String.ofList more))
  | "wait" => ((Text.Count.parse? rest).map Command.wait).getD .unknown
  | _ => .unknown

/-- The answer to a command, and the service after it. -/
def run (routes : Web.Routes) (s : Service) : Command -> String × Service
  | .put path text =>
    match s.volume.write path (.file text.toUTF8) with
    | .ok volume => ("", { s with volume })
    | .error fault => (fault.message, s)
  | .send request =>
    let (response, s) := Web.answer routes s request
    (toString response.status ++ " " ++ response.text, s.settle)
  | .wait millis => ("", s.advance millis)
  | .unknown => ("unknown command", s)

def display (text : String) : IO Unit :=
  if text.isEmpty then pure () else IO.println text

def showLog (s : Service) : IO Service := do
  let (entries, s) := s.takeLog
  for e in entries do
    IO.eprintln (e.level.name ++ " " ++ e.text)
  return s

partial def serve (input : IO.FS.Stream) (routes : Web.Routes) (s : Service) : IO Unit := do
  let line <- input.getLine
  if line.isEmpty then return ()
  let (answer, s) := run routes s (.read line)
  display answer
  serve input routes (<- showLog s)

def launch (text : String) : Except String (Web.Routes × Service) := do
  let catalog <- (Catalog.parse text).mapError CatalogFault.message
  let routes <- (Web.Routes.ofHealthPath catalog.healthPath).mapError Web.RouteFault.message
  let service <- (Service.start catalog .empty).mapError Search.TooManyPermits.message
  return (routes, service.startPollers)

end FleetSearch.Shell

def main : IO UInt32 := do
  let input <- IO.getStdin
  match FleetSearch.Shell.launch (<- input.getLine) with
  | .error message =>
    IO.eprintln message
    return 1
  | .ok (routes, service) =>
    FleetSearch.Shell.serve input routes service
    return 0
