import SiteCache.Headers
import SiteCache.Identity

/-!
# Copies

A `Copy` is what the cache keeps of a resource: its identity, its content, the headers to serve
with it and the time at which it was taken.
-/

namespace SiteCache

/-- A cached resource. -/
structure Copy where
  identity : Identity
  content : Octets
  modified : Time
  headers : Headers

end SiteCache
