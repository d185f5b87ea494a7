import AgentManifest.Url.Host
import AgentManifest.Url.Path

/-! Web addresses of the scheme `https`, taken apart and written back. -/

namespace AgentManifest.Url

/-- An address of the scheme `https`. All texts are in encoded form. -/
structure SecureUrl where
  credentials : List Char
  host : Host
  /-- The port, unless it is the usual one. -/
  port : Option Nat
  path : Path
  query : Option (List Char)
  fragment : Option (List Char)
  deriving DecidableEq, Repr

namespace SecureUrl

def endsAuthority (c : Char) : Bool := c = '/' || c = '\\' || c = '?' || c = '#'

def credentialsText (given : List Char) : List Char :=
  let user := given.takeWhile (· ≠ ':')
  let password := (given.dropWhile (· ≠ ':')).drop 1
  let encode := percentEncode credentialEscapes
  if user = [] ∧ password = [] then []
  else encode user ++ (if password = [] then [] else ':' :: encode password) ++ ['@']

/-- Takes user and password off the front: what stands before the last `@` of the authority. -/
def splitCredentials (text : List Char) : List Char × List Char :=
  let authority := text.takeWhile fun c => !endsAuthority c
  let given := (authority.reverse.dropWhile (· ≠ '@')).reverse
  if given = [] then ([], text) else (credentialsText given.dropLast, text.drop given.length)

/-- Takes the host off the front. Inside brackets a colon belongs to it. -/
def splitHost (inBrackets : Bool) : List Char → List Char × List Char
  | [] => ([], [])
  | c :: rest =>
    if endsAuthority c || (c = ':' && !inBrackets) then ([], c :: rest)
    else
      let (host, behind) := splitHost (c = '[' || (inBrackets && c ≠ ']')) rest
      (c :: host, behind)

def readPort (sofar : Option Nat) : List Char → Except Fault (Option Nat × List Char)
  | [] => .ok (sofar, [])
  | c :: rest =>
    if c.isDigit then
      let port := sofar.getD 0 * 10 + (c.toNat - 48)
      if 65535 < port then .error .invalidPort else readPort (some port) rest
    else if endsAuthority c then .ok (sofar, c :: rest)
    else .error .invalidPort

/-- The port behind a host. The usual port of the scheme is not kept. -/
def splitPort : List Char → Except Fault (Option Nat × List Char)
  | ':' :: rest => do
    let (port, rest) ← readPort none rest
    return (port.filter (· ≠ 443), rest)
  | rest => .ok (none, rest)

def splitResource (text : List Char) : List Char × Option (List Char) × Option (List Char) :=
  let front := text.takeWhile (· ≠ '#')
  let fragment := match text.dropWhile (· ≠ '#') with
    | [] => none
    | _ :: rest => some rest
  let query := match front.dropWhile (· ≠ '?') with
    | [] => none
    | _ :: rest => some rest
  (front.takeWhile (· ≠ '?'), query, fragment)

/-- The address of `https://` and a text. Blanks and controls at its end do not count, tabs and line
ends nowhere, and any number of slashes may stand in front. -/
def parse (text : List Char) : Except Fault SecureUrl := do
  let text := (Text.trimEnd (·.toNat ≤ 32) text).filter fun c => !Path.isDropped c
  let text := text.dropWhile fun c => c = '/' || c = '\\'
  let (credentials, text) := splitCredentials text
  let (host, text) := splitHost false text
  if host = [] then throw .emptyHost
  let host ← Host.parse host
  let (port, text) ← splitPort text
  let (path, query, fragment) := splitResource text
  return {
    credentials
    host
    port
    path := .ofText (path.drop 1)
    query := query.map (percentEncode queryEscapes)
    fragment := fragment.map (percentEncode fragmentEscapes) }

def text (u : SecureUrl) : List Char :=
  "https://".toList ++ u.credentials ++ u.host.text
    ++ (match u.port with
      | some port => ':' :: (toString port).toList
      | none => [])
    ++ u.path.text
    ++ (match u.query with
      | some query => '?' :: query
      | none => [])
    ++ (match u.fragment with
      | some fragment => '#' :: fragment
      | none => [])

def withPair (u : SecureUrl) (name value : List Char) : SecureUrl :=
  let pair := name ++ '=' :: value
  { u with
    query := match u.query with
      | none | some [] => some pair
      | some query => some (query ++ '&' :: pair) }

end SecureUrl
end AgentManifest.Url
