import FleetSearch.Catalog.Basic
import FleetSearch.Json.Value

set_option autoImplicit false

namespace FleetSearch

open FleetSearch.Json

def LinkPattern.toValue (p : LinkPattern) : Value :=
  .object [("base-url", .text p.baseUrl), ("anchor", .text p.anchor)]

-- A repository's members; its checkout stays private.
def Repo.members (r : Repo) : List (String × Value) :=
  [("name", .text r.name), ("url", Value.ofOption .text r.url),
    ("ms-between-poll", .count r.pollMillis), ("vcs", .text r.vcs),
    ("url-pattern", r.links.toValue), ("exclude-dot-files", .bool r.excludeDotFiles),
    ("enable-poll-updates", Value.ofOption .bool r.poll),
    ("enable-push-updates", Value.ofOption .bool r.push)]

def Repo.toValue (r : Repo) : Value :=
  .object r.members

def Catalog.limits (c : Catalog) : List (String × Value) :=
  [("max-concurrent-indexers", .count c.maxSyncs),
    ("max-concurrent-searchers", .count c.maxProbes),
    ("max-repos-in-first-result", .count c.firstPage),
    ("max-repos-in-next-result", .count c.nextPage),
    ("health-check-uri", .text c.healthPath)]

def Catalog.toValue (c : Catalog) : Value :=
  .object (("dbpath", .text c.checkouts) :: ("repos", .list (c.repos.map Repo.toValue)) :: c.limits)

end FleetSearch
