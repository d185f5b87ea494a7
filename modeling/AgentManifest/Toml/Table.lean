import AgentManifest.Keyed
import AgentManifest.Toml.Scalar

/-! The tables a TOML text defines. A table may be defined once: by its header, by the dotted keys
that lead into it, or in braces. Headers may come in any order, so a header may define a table that
a longer header has implied, but not one that dotted keys have begun. -/

namespace AgentManifest.Toml

inductive Origin where
  /-- By its header; the whole text is such a table too. -/
  | header
  /-- By a longer header. -/
  | implied
  | dotted
  | braces
  deriving DecidableEq, Repr

/-- A value with the offset of its first byte where it has one of its own. -/
inductive Node where
  | scalar (value : Scalar) (offset : Nat)
  | array (items : List Node)
  | tables (items : List Node)
  | table (origin : Origin) (entries : List (String × Node))
  deriving Repr, Inhabited

structure KeyPart where
  name : String
  offset : Nat
  deriving DecidableEq, Repr

namespace Node

def sort : Node → ValueSort
  | .scalar v _ => v.sort
  | .array _ => .array
  | .tables _ => .array
  | .table .. => .inlineTable

def keyLimit : Nat := 80

def keyParts (pieces : List Piece) : Except Fault (List KeyPart) :=
  pieces.mapM fun p => do return ⟨← Scalar.keyOf p, p.first⟩

/-- Changes the table that a path of keys leads to, and makes the tables on the way that are missing.
`dotted` says that the path stands in front of a value and not in a header. -/
def within (dotted : Bool) (change : Keyed Node → Origin → Except Fault (Keyed Node)) :
    List KeyPart → Origin → Keyed Node → Except Fault (Keyed Node)
  | [], origin, entries => change entries origin
  | part :: path, _, entries => do
    match Keyed.get? part.name entries with
    | none =>
      let origin := if dotted then Origin.dotted else .implied
      let inner ← within dotted change path origin []
      return Keyed.insert part.name (.table origin inner) entries
    | some (.table origin inner) =>
      if origin = .braces then refuse (.notExtendable .inlineTable) part.offset
      else if dotted && origin = .header then refuse .repeatedKey part.offset
      else
        let inner ← within dotted change path origin inner
        return Keyed.insert part.name (.table origin inner) entries
    | some (.tables items) =>
      match items.getLast? with
      | some (.table origin inner) =>
        let inner ← within dotted change path origin inner
        return Keyed.insert part.name (.tables (items.dropLast ++ [.table origin inner])) entries
      | _ => refuse (.notExtendable .array) part.offset
    | some node => refuse (.notExtendable node.sort) part.offset

/-- Sets the value of a key inside a table. A dotted key may add only to tables made by dotted
keys. -/
def setEntry (key : List KeyPart) (value : Node) (origin : Origin) (entries : Keyed Node) :
    Except Fault (Keyed Node) :=
  match key.getLast? with
  | none => .ok entries
  | some last =>
    let path := key.dropLast
    let dotted := !path.isEmpty
    within dotted (fun inner found =>
      if (found = .dotted) ≠ dotted || Keyed.contains last.name inner then
        refuse .repeatedKey last.offset
      else .ok (Keyed.insert last.name value inner)) path origin entries

def checkLength (key : List KeyPart) : Except Fault Unit :=
  if keyLimit < key.length then .error ⟨.keyTooLong, none⟩ else .ok ()

mutual

def ofTerm : Term → Except Fault Node
  | .scalar p => do return .scalar (← Scalar.ofPiece p) p.first
  | .array items => do return .array (← ofTerms items)
  | .inlineTable entries => do return .table .braces (← ofEntries [] entries)

def ofTerms : List Term → Except Fault (List Node)
  | [] => .ok []
  | t :: rest => do
    let node ← ofTerm t
    return node :: (← ofTerms rest)

def ofEntries (table : Keyed Node) : List (List Piece × Term) → Except Fault (Keyed Node)
  | [] => .ok table
  | (key, t) :: rest => do
    let key ← keyParts key
    let value ← ofTerm t
    checkLength key
    ofEntries (← setEntry key value .braces table) rest

end

structure Header where
  isArray : Bool
  key : List KeyPart
  deriving Repr

/-- A text read up to some statement: what the finished tables hold, the open table, and the header
that opened it. -/
structure Reading where
  root : Keyed Node
  current : Keyed Node
  header : Option Header
  deriving Repr

namespace Reading

def empty : Reading := ⟨[], [], none⟩

/-- Puts a finished table of a header in double brackets behind the ones of that name. -/
def appendTable (last : KeyPart) (table : Node) (entries : Keyed Node) :
    Except Fault (Keyed Node) :=
  match Keyed.get? last.name entries with
  | none => .ok (Keyed.insert last.name (.tables [table]) entries)
  | some (.tables items) => .ok (Keyed.insert last.name (.tables (items ++ [table])) entries)
  | some _ => refuse .repeatedKey last.offset

def finish (r : Reading) : Except Fault (Keyed Node) :=
  match r.header with
  | none => .ok r.current
  | some h =>
    match h.key.getLast? with
    | none => .ok r.root
    | some last =>
      let table := Node.table .header r.current
      within false (fun entries _ =>
        if h.isArray then appendTable last table entries
        else .ok (Keyed.insert last.name table entries)) h.key.dropLast .header r.root

/-- What a header finds under its name: nothing, or a table that a longer header has implied. -/
def claim (last : KeyPart) (entries : Keyed Node) : Except Fault (Keyed Node) :=
  match Keyed.get? last.name entries with
  | none => .ok entries
  | some (.table .implied _) => .ok entries
  | some _ => refuse .repeatedKey last.offset

def entriesAt : List KeyPart → Keyed Node → Keyed Node
  | [], entries => entries
  | part :: path, entries =>
    match Keyed.get? part.name entries with
    | some (.table _ inner) => entriesAt path inner
    | some (.tables items) =>
      match items.getLast? with
      | some (.table _ inner) => entriesAt path inner
      | _ => []
    | _ => []

def start (root : Keyed Node) (h : Header) : Except Fault Reading :=
  match h.key.getLast? with
  | none => .ok ⟨root, [], some h⟩
  | some last =>
    if h.isArray then .ok ⟨root, [], some h⟩
    else do
      let root ← within false (fun entries _ => claim last entries) h.key.dropLast .header root
      return ⟨root, entriesAt h.key root, some h⟩

def step (r : Reading) : Statement → Except Fault Reading
  | .header isArray key => do
    let root ← r.finish
    let key ← keyParts key
    checkLength key
    start root ⟨isArray, key⟩
  | .entry key t => do
    let key ← keyParts key
    let value ← ofTerm t
    checkLength key
    return { r with current := ← setEntry key value .header r.current }

end Reading

def ofStatements (statements : List Statement) : Except Fault (Keyed Node) := do
  (← statements.foldlM Reading.step Reading.empty).finish

end Node
end AgentManifest.Toml
