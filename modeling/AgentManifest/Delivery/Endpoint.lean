import AgentManifest.Delivery.CreateMode
import AgentManifest.Url.Basic

/-! The address that agents of a database and schema are created at. -/

namespace AgentManifest.Endpoint

/-- What follows the first `://`, or all of a text without it. -/
def withoutScheme : List Char → Option (List Char)
  | ':' :: '/' :: '/' :: rest => some rest
  | _ :: rest => withoutScheme rest
  | [] => none

/-- The base address. Whatever its scheme, `https` is used, and slashes at its end do not count. -/
def base (baseUrl : String) : Except Url.Fault Url.SecureUrl :=
  let text := baseUrl.toList
  Url.SecureUrl.parse (Text.trimEnd (· = '/') ((withoutScheme text).getD text))

def segments (database schema : String) : List String :=
  ["api", "v2", "databases", database, "schemas", schema, "agents"]

def create (baseUrl database schema : String) (mode : CreateMode) : Except Url.Fault String := do
  let url ← base baseUrl
  let path := (segments database schema).foldl (fun p s => p.append s.toList) url.path.popIfEmpty
  let url := { url with path }.withPair "createMode".toList mode.name.toList
  return String.ofList url.text

end AgentManifest.Endpoint
