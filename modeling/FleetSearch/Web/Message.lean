import FleetSearch.Json.Value
import FleetSearch.Web.Form

set_option autoImplicit false

namespace FleetSearch.Web

structure Request where
  method : String := "GET"
  path : String
  query : String := ""
  contentType : String := ""
  body : String := ""
deriving DecidableEq

def Request.ofTarget (method target : String) (contentType body : String := "") : Request :=
  let cs := target.toList.takeWhile (· != '#')
  let (path, query) := cs.span (· != '?')
  { method, path := String.ofList path, query := String.ofList (query.drop 1), contentType, body }

inductive Body where
  | empty
  | text (s : String)
  | json (v : Json.Value)

structure Response where
  status : Nat := 200
  body : Body := .empty
  -- the methods that the path answers, where the method is not one of them
  allow : Option String := none
  -- the body is described but not sent
  bare : Bool := false

namespace Body

def contentType? : Body -> Option String
  | .empty => none
  | .text _ => some "text/plain; charset=utf-8"
  | .json _ => some "application/json"

def render : Body -> String
  | .empty => ""
  | .text s => s
  | .json v => v.render

end Body

namespace Response

def json (v : Json.Value) : Response :=
  { body := .json v }

def failure (status : Nat) (error : String) : Response :=
  { status, body := .json (.object [("Error", .text error)]) }

def refusal (status : Nat) (text : String) : Response :=
  { status, body := .text text }

def notFound : Response := { status := 404 }

def notAllowed (methods : String) : Response := { status := 405, allow := some methods }

def text (r : Response) : String :=
  if r.bare then "" else r.body.render

end Response

end FleetSearch.Web
