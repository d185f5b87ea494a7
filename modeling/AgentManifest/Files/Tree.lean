import AgentManifest.Files.Route

/-! A tree of files, directories and links, and what can be done to it. Everything in the tree has a
place: the names that lead to it from the root, none of them a link. -/

namespace AgentManifest

inductive FileEntry where
  | file (content : List UInt8)
  | directory
  | link (target : String)
  deriving DecidableEq, Repr

abbrev Place := List String

structure FileTree where
  /-- The entry at each place but the root, which is a directory. -/
  entries : List (Place × FileEntry)
  workingDirectory : Place

namespace FileTree

def empty : FileTree := ⟨[(["work"], .directory)], ["work"]⟩

def entry? (t : FileTree) (p : Place) : Option FileEntry :=
  if p = [] then some .directory else t.entries.lookup p

def put (t : FileTree) (p : Place) (e : FileEntry) : FileTree :=
  { t with entries := t.entries.filter (·.1 ≠ p) ++ [(p, e)] }

def without (t : FileTree) (p : Place) : FileTree :=
  { t with entries := t.entries.filter fun e => !p.isPrefixOf e.1 }

def namesAt (t : FileTree) (p : Place) : List String :=
  t.entries.filterMap fun e => if e.1.dropLast = p then e.1.getLast? else none

def startOf (t : FileTree) (absolute : Bool) : Place := if absolute then [] else t.workingDirectory

def linkLimit : Nat := 40

/-- Follows names from a place. The last of them may lead to nothing. -/
def follow (t : FileTree) (links : Nat) (p : Place) : List String → Except FileFault Place
  | [] => .ok p
  | name :: rest =>
    if t.entry? p ≠ some .directory then .error .notDirectory
    else if name = "." then t.follow links p rest
    else if name = ".." then t.follow links p.dropLast rest
    else if name.utf8ByteSize > Route.nameLimit then .error .nameTooLong
    else
      let next := p ++ [name]
      match t.entry? next with
      | some (.link target) =>
        match links with
        | 0 => .error .tooManyLinks
        | links + 1 =>
          match Route.ofText target with
          | .error e => .error e
          | .ok route =>
            t.follow links (if route.absolute then [] else p) (route.followed ++ rest)
      | some _ => t.follow links next rest
      | none => if rest.isEmpty then .ok next else .error .notFound
  termination_by names => (links, names.length)

def placeOf (t : FileTree) (path : String) : Except FileFault Place := do
  let route ← Route.ofText path
  t.follow linkLimit (t.startOf route.absolute) route.followed

def find (t : FileTree) (path : String) : Except FileFault (Place × FileEntry) := do
  let p ← t.placeOf path
  match t.entry? p with
  | some e => return (p, e)
  | none => throw .notFound

/-- The place for the last name of a route, in the directory that the names before it lead to. That
name is not followed. -/
def placeFor (t : FileTree) (absolute : Bool) (names : List String) : Except FileFault Place :=
  match names.getLast? with
  | none => .error .exists
  | some last => do
    let p ← t.follow linkLimit (t.startOf absolute) names.dropLast
    match t.entry? p with
    | none => throw .notFound
    | some .directory =>
      if last = "." then return p
      else if last = ".." then return p.dropLast
      else if last.utf8ByteSize > Route.nameLimit then throw .nameTooLong
      else return p ++ [last]
    | some _ => throw .notDirectory

def read (t : FileTree) (path : String) : Except FileFault (List UInt8) := do
  match ← t.find path with
  | (_, .file content) => return content
  | _ => throw .isDirectory

def isFile (t : FileTree) (path : String) : Except FileFault Bool := do
  match ← t.find path with
  | (_, .file _) => return true
  | _ => return false

def isDirectory (t : FileTree) (path : String) : Bool :=
  match t.find path with
  | .ok (_, .directory) => true
  | _ => false

def list (t : FileTree) (path : String) : Except FileFault (List String) := do
  match ← t.find path with
  | (p, .directory) => return t.namesAt p
  | _ => throw .notDirectory

def create (t : FileTree) (absolute : Bool) (names : List String) (e : FileEntry) :
    Except FileFault FileTree := do
  let p ← t.placeFor absolute names
  match t.entry? p with
  | some _ => throw .exists
  | none => return t.put p e

def leadsToDirectory (t : FileTree) (absolute : Bool) (names : List String) : Bool :=
  match t.follow linkLimit (t.startOf absolute) names with
  | .ok p => t.entry? p = some .directory
  | .error _ => false

def createDirectory (t : FileTree) (absolute : Bool) (names : List String) :
    Except FileFault FileTree :=
  match t.create absolute names .directory with
  | .ok made => .ok made
  | .error e => if t.leadsToDirectory absolute names then .ok t else .error e

/-- Makes a directory of the given names, and those before it, the last of them first. What could
be made stays, also when something else could not be. -/
def createAll (t : FileTree) (absolute : Bool) (names : List String) :
    List String → Except FileFault Unit × FileTree
  | [] =>
    match t.createDirectory absolute names with
    | .ok made => (.ok (), made)
    | .error e => (.error e, t)
  | last :: rest =>
    match t.createDirectory absolute names with
    | .ok made => (.ok (), made)
    | .error .notFound =>
      match t.createAll absolute (last :: rest).reverse rest with
      | (.error e, made) => (.error e, made)
      | (.ok (), made) =>
        match made.createDirectory absolute names with
        | .ok whole => (.ok (), whole)
        | .error e => (.error e, made)
    | .error e => (.error e, t)

/-- Makes a directory at a path, and those that lead to it. The empty path asks for nothing. -/
def createDirectories (t : FileTree) (path : String) : Except FileFault Unit × FileTree :=
  if path.isEmpty then (.ok (), t)
  else match Route.ofText path with
    | .error e => (.error e, t)
    | .ok route => t.createAll route.absolute route.names route.before

/-- Writes a file, over one that is there. A path that ends in a slash is no file. -/
def write (t : FileTree) (path : String) (content : List UInt8) : Except FileFault FileTree := do
  let route ← Route.ofText path
  if route.toDirectory then
    let _ ← t.placeFor route.absolute route.names
    throw .isDirectory
  let p ← t.follow linkLimit (t.startOf route.absolute) route.names
  match t.entry? p with
  | some .directory => throw .isDirectory
  | _ => return t.put p (.file content)

def link (t : FileTree) (target path : String) : Except FileFault FileTree := do
  let _ ← Route.ofText target
  let route ← Route.ofText path
  t.create route.absolute route.names (.link target)

def remove (t : FileTree) (path : String) : Except FileFault FileTree := do
  let route ← Route.ofText path
  let p ← t.placeFor route.absolute route.names
  match t.entry? p with
  | some _ => return t.without p
  | none => throw .notFound

end FileTree
end AgentManifest
