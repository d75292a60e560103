import FleetSearch.Disk.Path
import FleetSearch.Web.Template

set_option autoImplicit false

/-!
Which handler answers a path. Three paths are fixed for readers and one for updates; the path of the
health check is the catalog's.
-/

namespace FleetSearch.Web

inductive Handler where
  | search
  | repos
  | update
  | excludes
  | health
deriving DecidableEq

def searchPath : String := "/api/v1/search"
def reposPath : String := "/api/v1/repos"
def updatePath : String := "/api/v1/update"
def excludesPath : String := "/api/v1/excludes"

structure Endpoint where
  get : Option Handler := none
  post : Option Handler := none
deriving DecidableEq

def Endpoint.allowed (e : Endpoint) : String :=
  ",".intercalate
    ((if e.post.isSome then ["POST"] else []) ++ (if e.get.isSome then ["GET", "HEAD"] else []))

inductive RouteFault where
  | notRooted
  | startsWithColon
  | startsWithStar
  | taken (path : String)
  | invalid (path : String) (fault : TemplateFault)
deriving DecidableEq

def RouteFault.message : RouteFault -> String
  | .notRooted => "Paths must start with a `/`"
  | .startsWithColon => String.join
      ["Path segments must not start with `:`. For capture groups, use `\x7bcapture\x7d`. If you ",
        "meant to literally match a segment starting with a colon, call `without_v07_checks` on ",
        "the router."]
  | .startsWithStar => String.join
      ["Path segments must not start with `*`. For wildcard capture, use `\x7b*wildcard\x7d`. If ",
        "you meant to literally match a segment starting with an asterisk, call ",
        "`without_v07_checks` on the router."]
  | .taken path =>
    "Overlapping method route. Handler for `GET " ++ path ++ "` already exists"
  | .invalid _ .tooMany => TemplateFault.tooMany.message
  | .invalid path fault =>
    "Invalid route " ++ Text.printable path ++ ": " ++ fault.message

structure Routes where
  healthPath : String
  health : Template
deriving DecidableEq

namespace Routes

def badSegment? (path : String) : Option RouteFault :=
  (Disk.Path.pieces path.toList).findSome? fun piece =>
    match piece with
    | ':' :: _ => some .startsWithColon
    | '*' :: _ => some .startsWithStar
    | _ => none

def ofHealthPath (path : String) : Except RouteFault Routes :=
  if path.toList.head? != some '/' then .error .notRooted
  else
    match badSegment? path with
    | some fault => .error fault
    | none =>
      if [searchPath, reposPath, excludesPath].contains path then .error (.taken path)
      else
        match Template.read path with
        | .error fault => .error (.invalid path fault)
        | .ok health => .ok { healthPath := path, health }

-- A fixed path goes before one with open places.
def endpoint? (r : Routes) (path : String) : Option Endpoint :=
  if path = searchPath then some { get := some .search }
  else if path = reposPath then some { get := some .repos }
  else if path = updatePath then
    some { get := if r.healthPath = updatePath then some .health else none, post := some .update }
  else if path = excludesPath then some { get := some .excludes }
  else if r.health.fits path.toList then some { get := some .health }
  else none

end Routes

end FleetSearch.Web
