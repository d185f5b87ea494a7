import AgentManifest.Files.Fault
import AgentManifest.FilePath

/-! Paths as the names that are followed from the root or from the working directory. -/

namespace AgentManifest

/-- The names that a path goes through. Single and double dots are names. -/
structure Route where
  absolute : Bool
  names : List String
  /-- Whether the path ends in a slash, so that it can only lead to a directory. -/
  toDirectory : Bool
  deriving DecidableEq, Repr

namespace Route

def pathLimit : Nat := 4095

def nameLimit : Nat := 255

def ofText (path : String) : Except FileFault Route :=
  let chars := path.toList
  if chars.contains '\x00' then .error .nullInPath
  else if path.utf8ByteSize > pathLimit then .error .nameTooLong
  else
    let absolute := chars.head? = some '/'
    let names := (Text.splitAt '/' chars).filter (· ≠ [])
    if names.isEmpty && !absolute then .error .notFound
    else .ok ⟨absolute, names.map String.ofList, chars.getLast? = some '/'⟩

/-- The names to follow; a route that has to lead to a directory ends in a dot. -/
def followed (r : Route) : List String := if r.toDirectory then r.names ++ ["."] else r.names

/-- The names without the dots that say nothing. A dot in front of a relative path stays. -/
def components (r : Route) : List String :=
  match r.absolute, r.names with
  | false, "." :: rest => "." :: rest.filter (· ≠ ".")
  | _, names => names.filter (· ≠ ".")

/-- The names that lead to the directory which the last component is in, the last of them first. -/
def before (r : Route) : List String := r.components.dropLast.reverse

end Route
end AgentManifest
