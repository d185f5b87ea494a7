import AgentManifest.Text.Quoted
import AgentManifest.Yaml.Document
import AgentManifest.Yaml.ScalarValue

/-! Reading a YAML text as a value tree. Keys are kept as they are written, the last of equal keys
counts, and an alias stands for the value of its anchor. What cannot be a value tree is refused:
tags of the document's own, keys that are collections, and integers beyond 64 bits. -/

namespace AgentManifest.Yaml

inductive ValuePath where
  | root
  | index (parent : ValuePath) (i : Nat)
  | key (parent : ValuePath) (name : String)
  | unnamed (parent : ValuePath)
  deriving DecidableEq, Repr

mutual

def ValuePath.text : ValuePath → String
  | .root => "."
  | .index parent i => parent.text ++ s!"[{i}]"
  | .key parent name => parent.lead ++ name
  | .unnamed parent => parent.lead ++ "?"

def ValuePath.lead : ValuePath → String
  | .root => ""
  | .index parent i => parent.text ++ s!"[{i}]" ++ "."
  | .key parent name => parent.lead ++ name ++ "."
  | .unnamed parent => parent.lead ++ "?" ++ "."

end

inductive NodeSort where
  | tagged
  | list
  | mapping
  deriving DecidableEq, Repr

def NodeSort.text : NodeSort → String
  | .tagged => "enum"
  | .list => "sequence"
  | .mapping => "map"

inductive Wanted where
  | value
  | firstKey
  | laterKey
  deriving DecidableEq, Repr

def Wanted.text : Wanted → String
  | .value => "any valid JSON value"
  | .firstKey => "a string key"
  | .laterKey => "a string"

inductive DataFault where
  | wrongSort (found : NodeSort) (wanted : Wanted)
  | notOfKind (text : String) (kind : ScalarValue.Kind)
  | outOfRange
  deriving DecidableEq, Repr

def DataFault.text : DataFault → String
  | .wrongSort found wanted => s!"invalid type: {found.text}, expected {wanted.text}"
  | .notOfKind text kind => s!"invalid value: string {quotedText text}, expected {kind.expected}"
  | .outOfRange => "JSON number out of range"

inductive ReadError where
  | controlCharacter (offset : Nat)
  | syntaxFault (f : SyntaxFault)
  | unknownAnchor (mark : Mark)
  | tooDeep (mark : Mark)
  | tooManyAliases
  | moreDocuments
  | endOfStream
  | data (f : DataFault) (mark : Mark) (path : ValuePath)
  deriving DecidableEq, Repr

namespace ReadError

def mark? : ReadError → Option Mark
  | .controlCharacter _ => some Mark.start
  | .syntaxFault f => some f.mark
  | .unknownAnchor mark => some mark
  | .tooDeep mark => some mark
  | .tooManyAliases => none
  | .moreDocuments => none
  | .endOfStream => none
  | .data _ mark _ => some mark

def placed (text : String) (mark : Mark) : String :=
  if mark.isOrigin then text else s!"{text} at {mark.text}"

def text : ReadError → String
  | .controlCharacter offset =>
    if offset = 0 then "control characters are not allowed"
    else s!"control characters are not allowed at position {offset}"
  | .syntaxFault f => f.text
  | .unknownAnchor mark => placed "unknown anchor" mark
  | .tooDeep mark => placed "recursion limit exceeded" mark
  | .tooManyAliases => "repetition limit exceeded"
  | .moreDocuments =>
    "deserializing from YAML containing more than one document is not supported"
  | .endOfStream => "EOF while parsing a value"
  | .data f mark path =>
    let lead := if path.text = "." then "" else s!"{path.text}: "
    placed (lead ++ f.text) mark

def ofDocumentFault : DocumentFault → ReadError
  | .syntaxFault f => .syntaxFault f
  | .unknownAnchor mark => .unknownAnchor mark

end ReadError

namespace Value

/-- The tag a document gives itself, which no value tree can keep. -/
def isOwnTag (tag : Option String) : Bool := tag.any (fun t => t.toList.head? == some '!')

def depthLimit : Nat := 128

/-- A step of reading gives a result, the index of the next item, and how often aliases have been
followed. -/
abbrev Progress (α : Type) := α × Nat × Nat

/-- The item at an index; behind the last one stands what broke the document off. -/
def itemAt (d : Document) (i : Nat) : Except ReadError (Item × Mark) :=
  match d.items[i]? with
  | some item => .ok item
  | none => .error (match d.fault with
    | some f => .ofDocumentFault f
    | none => .endOfStream)

/-- Follows an alias. In all, aliases may be followed a hundred times per item. -/
def follow (d : Document) (id jumps : Nat) : Except ReadError (Nat × Nat) :=
  if d.items.size * 100 < jumps + 1 then .error .tooManyAliases
  else match d.targets.lookup id with
    | some target => .ok (target, jumps + 1)
    | none => .error .endOfStream

def ofScalarValue : ScalarValue → Except DataFault Json
  | .null => .ok .null
  | .bool b => .ok (.bool b)
  | .integer i => if Number.fits i then .ok (.number (.integer i)) else .error .outOfRange
  | .number x => .ok (.number (.float x))
  | .notFinite => .ok .null
  | .text s => .ok (.string s)

def ofScalar (tag : Option String) (text : String) (style : ScalarStyle) : Except DataFault Json :=
  match tag with
  | some tag =>
    match ScalarValue.Kind.ofTag? tag with
    | some kind =>
      match ScalarValue.ofKind? kind text with
      | some v => ofScalarValue v
      | none => .error (.notOfKind text kind)
    | none => .ok (.string text)
  | none =>
    if style = .plain then ofScalarValue (ScalarValue.ofPlain text) else .ok (.string text)

def key (d : Document) (wanted : Wanted) (path : ValuePath) : Nat → Nat → Nat →
    Except ReadError (Progress String)
  | 0, _, _ => .error .endOfStream
  | fuel + 1, i, jumps => do
    let (item, mark) ← itemAt d i
    match item with
    | .scalar _ text _ => return (text, i + 1, jumps)
    | .alias id =>
      let (target, jumps) ← follow d id jumps
      let (text, _, jumps) ← key d wanted path fuel target jumps
      return (text, i + 1, jumps)
    | .sequenceStart _ => throw (.data (.wrongSort .list wanted) mark path)
    | .mappingStart _ => throw (.data (.wrongSort .mapping wanted) mark path)
    | _ => throw .endOfStream

def valuePath (path : ValuePath) : Item → ValuePath
  | .scalar _ text _ => .key path text
  | _ => .unnamed path

mutual

/-- Reads the value at an index. `depth` is how many more collections may be opened. -/
def value (d : Document) : Nat → Nat → ValuePath → Nat → Nat → Except ReadError (Progress Json)
  | 0, _, _, _, _ => .error .endOfStream
  | fuel + 1, depth, path, i, jumps => do
    let (item, mark) ← itemAt d i
    match item with
    | .alias id =>
      let (target, jumps) ← follow d id jumps
      let (v, _, jumps) ← value d fuel depth path target jumps
      return (v, i + 1, jumps)
    | .scalar tag text style =>
      if isOwnTag tag then throw (.data (.wrongSort .tagged .value) mark path)
      else match ofScalar tag text style with
        | .ok v => return (v, i + 1, jumps)
        | .error f => throw (.data f mark path)
    | .sequenceStart tag =>
      if isOwnTag tag then throw (.data (.wrongSort .tagged .value) mark path)
      else if depth = 0 then throw (.tooDeep mark)
      else
        let (vs, i, jumps) ← elements d fuel (depth - 1) path 0 (i + 1) jumps
        return (.array vs, i, jumps)
    | .mappingStart tag =>
      if isOwnTag tag then throw (.data (.wrongSort .tagged .value) mark path)
      else if depth = 0 then throw (.tooDeep mark)
      else
        let (ms, i, jumps) ← members d fuel (depth - 1) path true (i + 1) jumps
        return (.object ms, i, jumps)
    | .nothing => return (.null, i + 1, jumps)
    | .sequenceEnd => throw .endOfStream
    | .mappingEnd => throw .endOfStream

def elements (d : Document) : Nat → Nat → ValuePath → Nat → Nat → Nat →
    Except ReadError (Progress (List Json))
  | 0, _, _, _, _, _ => .error .endOfStream
  | fuel + 1, depth, path, count, i, jumps => do
    let (item, _) ← itemAt d i
    if item = .sequenceEnd then return ([], i + 1, jumps)
    else
      let (v, i, jumps) ← value d fuel depth (.index path count) i jumps
      let (vs, i, jumps) ← elements d fuel depth path (count + 1) i jumps
      return (v :: vs, i, jumps)

def members (d : Document) : Nat → Nat → ValuePath → Bool → Nat → Nat →
    Except ReadError (Progress Members)
  | 0, _, _, _, _, _ => .error .endOfStream
  | fuel + 1, depth, path, first, i, jumps => do
    let (item, _) ← itemAt d i
    if item = .mappingEnd then return ([], i + 1, jumps)
    else
      let wanted := if first then Wanted.firstKey else .laterKey
      let (name, i, jumps) ← key d wanted path fuel i jumps
      let (v, i, jumps) ← value d fuel depth (valuePath path item) i jumps
      let (ms, i, jumps) ← members d fuel depth path false i jumps
      return ((name, v) :: ms, i, jumps)

end

/-- More nested calls than reading the document can make: at each depth a run over all items. -/
def callLimit (d : Document) : Nat := (depthLimit + 2) * (2 * d.items.size + 4)

/-- The tree of a document. A fault behind the items that make up the tree still counts. -/
def ofDocument (d : Document) : Except ReadError Json := do
  let (v, _, _) ← value d (callLimit d) depthLimit .root 0 0
  match d.fault with
  | some f => throw (.ofDocumentFault f)
  | none => if d.more then throw .moreDocuments else return v

end Value

/-- The offset in bytes of the first character that no YAML text may hold. -/
def controlOffset? : Nat → List Char → Option Nat
  | _, [] => none
  | offset, c :: rest =>
    if isAllowed c then controlOffset? (offset + c.utf8Size) rest else some offset

def parse (text : String) : Except ReadError Json :=
  match controlOffset? 0 text.toList with
  | some offset => .error (.controlCharacter offset)
  | none => (Value.ofDocument (Document.ofText text.toList)).map Json.canonical

end AgentManifest.Yaml
