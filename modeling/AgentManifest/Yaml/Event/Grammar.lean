import AgentManifest.Yaml.Event

/-! From tokens to events. The grammar is a stack machine: its state says what may come next, the
stack what comes after that. A node that is missing where one may be is an empty plain scalar. -/

namespace AgentManifest.Yaml

inductive Expecting where
  | documentStart (first : Bool)
  | documentContent
  | documentEnd
  | blockNode
  | blockSequence (first : Bool)
  | indentlessSequence
  | blockKey (first : Bool)
  | blockValue
  | flowSequence (first : Bool)
  | pairKey
  | pairValue
  | pairEnd
  | flowKey (first : Bool)
  | flowValue (empty : Bool)
  | nothing
  deriving DecidableEq, Repr

structure Grammar where
  tokens : List Token
  expecting : Expecting
  /-- What to expect when the current node is complete, innermost first. -/
  after : List Expecting
  /-- Where the open collections began, innermost first. -/
  openings : List Mark
  /-- Handles and what they stand for, in this document. -/
  handles : List (String × String)
  deriving Repr

/-- Why no event can be given: the tokens have run out, or they do not fit. -/
inductive Stop where
  | tokensEnded
  | fault (f : SyntaxFault)
  deriving DecidableEq, Repr

namespace Grammar

def start (tokens : List Token) : Grammar := ⟨tokens, .documentStart true, [], [], []⟩

def peek (g : Grammar) : Except Stop Token :=
  match g.tokens with
  | [] => .error .tokensEnded
  | t :: _ => .ok t

def skip (g : Grammar) : Grammar := { g with tokens := g.tokens.drop 1 }

def pop (g : Grammar) : Grammar :=
  { g with expecting := g.after.head?.getD .nothing, after := g.after.drop 1 }

def close (g : Grammar) : Grammar := { g.pop with openings := g.openings.drop 1 }

def expect (g : Grammar) (e : Expecting) : Grammar := { g with expecting := e }

def push (g : Grammar) (e : Expecting) : Grammar := { g with after := e :: g.after }

def emptyScalar (mark : Mark) : Event := ⟨.scalar Properties.none "" .plain, mark⟩

def refuse {α : Type} (problem : Problem) (mark : Mark) (context : Option (Activity × Mark)) :
    Except Stop α :=
  .error (.fault ⟨problem, mark, context⟩)

def refuseIn {α : Type} (g : Grammar) (problem : Problem) (mark : Mark) (activity : Activity) :
    Except Stop α :=
  refuse problem mark (some (activity, g.openings.head?.getD mark))

structure Front where
  anchor : Option String
  tag : Option (String × String × Mark)
  first : Mark

def front (g : Grammar) : Except Stop (Front × Grammar) := do
  let t ← g.peek
  match t.kind with
  | .anchor name =>
    let g := g.skip
    let u ← g.peek
    match u.kind with
    | .tag handle suffix => return (⟨some name, some (handle, suffix, u.first), t.first⟩, g.skip)
    | _ => return (⟨some name, none, t.first⟩, g)
  | .tag handle suffix =>
    let g := g.skip
    let u ← g.peek
    match u.kind with
    | .anchor name => return (⟨some name, some (handle, suffix, t.first), t.first⟩, g.skip)
    | _ => return (⟨none, some (handle, suffix, t.first), t.first⟩, g)
  | _ => return (⟨none, none, t.first⟩, g)

def resolveTag (g : Grammar) (f : Front) : Except Stop (Option String) :=
  match f.tag with
  | none => .ok none
  | some (handle, suffix, mark) =>
    if handle.isEmpty then .ok (some suffix)
    else match g.handles.lookup handle with
      | some text => .ok (some (text ++ suffix))
      | none => refuse .undefinedTagHandle mark (some (.node, f.first))

/-- Reads the start of a node. Block collections may begin only where `block` allows them, a
sequence without indentation only where `indentless` does. -/
def node (g : Grammar) (block indentless : Bool) : Except Stop (Event × Grammar) := do
  let t ← g.peek
  match t.kind with
  | .alias name => return (⟨.alias name, t.first⟩, g.pop.skip)
  | _ =>
    let (f, g) ← g.front
    let t ← g.peek
    let tag ← g.resolveTag f
    let properties : Properties := ⟨f.anchor, tag⟩
    match t.kind with
    | .blockEntry =>
      if indentless then
        return (⟨.sequenceStart properties, f.first⟩, g.expect .indentlessSequence)
      else missing g f properties t block
    | .scalar text style => return (⟨.scalar properties text style, f.first⟩, g.pop.skip)
    | .flowSequenceStart => return (⟨.sequenceStart properties, f.first⟩, g.expect (.flowSequence true))
    | .flowMappingStart => return (⟨.mappingStart properties, f.first⟩, g.expect (.flowKey true))
    | .blockSequenceStart =>
      if block then
        return (⟨.sequenceStart properties, f.first⟩, g.expect (.blockSequence true))
      else missing g f properties t block
    | .blockMappingStart =>
      if block then return (⟨.mappingStart properties, f.first⟩, g.expect (.blockKey true))
      else missing g f properties t block
    | _ => missing g f properties t block
where
  /-- No node follows: an anchor or a tag alone stands for an empty scalar. -/
  missing (g : Grammar) (f : Front) (properties : Properties) (t : Token) (block : Bool) :
      Except Stop (Event × Grammar) :=
    if f.anchor.isSome || f.tag.isSome then
      .ok (⟨.scalar properties "" .plain, f.first⟩, g.pop)
    else refuse .nodeExpected t.first
      (some (if block then .blockNode else .flowNode, f.first))

def nodeUnless (g : Grammar) (ends : TokenKind → Bool) (block indentless : Bool)
    (onward : Expecting) (emptyAt : Token → Mark) : Except Stop (Event × Grammar) := do
  let t ← g.peek
  if ends t.kind then return (emptyScalar (emptyAt t), g.expect onward)
  else (g.push onward).node block indentless

def directives : Nat → Bool → Grammar → Except Stop Grammar
  | 0, _, g => .ok g
  | fuel + 1, versionSeen, g => do
    let t ← g.peek
    match t.kind with
    | .versionDirective major minor =>
      if versionSeen then refuse .repeatedVersion t.first none
      else if major ≠ 1 || (minor ≠ 1 && minor ≠ 2) then refuse .incompatibleVersion t.first none
      else directives fuel true g.skip
    | .tagDirective handle text =>
      if (g.handles.lookup handle).isSome then refuse .repeatedTagDirective t.first none
      else directives fuel versionSeen { g.skip with handles := g.handles ++ [(handle, text)] }
    | _ => return g

def defaultHandles : List (String × String) := [("!", "!"), ("!!", "tag:yaml.org,2002:")]

def processDirectives (g : Grammar) : Except Stop Grammar := do
  let g ← directives (g.tokens.length + 1) false { g with handles := [] }
  return { g with handles := g.handles ++ defaultHandles }

def skipDocumentEnds (g : Grammar) : Grammar :=
  { g with tokens := g.tokens.dropWhile (fun t => t.kind == .documentEnd) }

def startsExplicitly : TokenKind → Bool
  | .versionDirective .. | .tagDirective .. | .documentStart | .streamEnd => true
  | _ => false

def documentStart (g : Grammar) (first : Bool) : Except Stop (Event × Grammar) := do
  let g := if first then g else g.skipDocumentEnds
  let t ← g.peek
  if first && !startsExplicitly t.kind then
    let g ← g.processDirectives
    return (⟨.documentStart, t.first⟩, (g.push .documentEnd).expect .blockNode)
  else if t.kind = .streamEnd then
    return (⟨.streamEnd, t.first⟩, g.skip.expect .nothing)
  else
    let g ← g.processDirectives
    let u ← g.peek
    if u.kind ≠ .documentStart then refuse .documentStartExpected u.first none
    else return (⟨.documentStart, t.first⟩, (g.push .documentEnd).skip.expect .documentContent)

def documentContent (g : Grammar) : Except Stop (Event × Grammar) := do
  let t ← g.peek
  if startsExplicitly t.kind || t.kind = .documentEnd then
    return (emptyScalar t.first, g.pop)
  else g.node true false

def documentEnd (g : Grammar) : Except Stop (Event × Grammar) := do
  let t ← g.peek
  let g := if t.kind = .documentEnd then g.skip else g
  return (⟨.documentEnd, t.first⟩, g.expect (.documentStart false))

def opened (g : Grammar) (first : Bool) : Except Stop Grammar := do
  if first then
    let t ← g.peek
    return { g.skip with openings := t.first :: g.openings }
  else return g

def blockSequence (g : Grammar) (first : Bool) : Except Stop (Event × Grammar) := do
  let g ← g.opened first
  let t ← g.peek
  match t.kind with
  | .blockEntry =>
    g.skip.nodeUnless (fun k => k == .blockEntry || k == .blockEnd) true false
      (.blockSequence false) (fun _ => t.behind)
  | .blockEnd => return (⟨.sequenceEnd, t.first⟩, g.close.skip)
  | _ => g.refuseIn .dashExpected t.first .blockCollection

def endsBlockNode (k : TokenKind) : Bool := k == .key || k == .value || k == .blockEnd

def indentlessSequence (g : Grammar) : Except Stop (Event × Grammar) := do
  let t ← g.peek
  match t.kind with
  | .blockEntry =>
    g.skip.nodeUnless (fun k => k == .blockEntry || endsBlockNode k) true false
      .indentlessSequence (fun _ => t.behind)
  | _ => return (⟨.sequenceEnd, t.first⟩, g.pop)

def blockKey (g : Grammar) (first : Bool) : Except Stop (Event × Grammar) := do
  let g ← g.opened first
  let t ← g.peek
  match t.kind with
  | .key => g.skip.nodeUnless endsBlockNode true true .blockValue (fun _ => t.behind)
  | .blockEnd => return (⟨.mappingEnd, t.first⟩, g.close.skip)
  | _ => g.refuseIn .keyExpected t.first .blockMapping

def blockValue (g : Grammar) : Except Stop (Event × Grammar) := do
  let t ← g.peek
  match t.kind with
  | .value => g.skip.nodeUnless endsBlockNode true true (.blockKey false) (fun _ => t.behind)
  | _ => return (emptyScalar t.first, g.expect (.blockKey false))

def separated (g : Grammar) (first : Bool) (problem : Problem) (activity : Activity) :
    Except Stop Grammar := do
  if first then return g
  else
    let t ← g.peek
    if t.kind = .flowEntry then return g.skip else g.refuseIn problem t.first activity

def flowSequence (g : Grammar) (first : Bool) : Except Stop (Event × Grammar) := do
  let g ← g.opened first
  let t ← g.peek
  if t.kind = .flowSequenceEnd then return (⟨.sequenceEnd, t.first⟩, g.close.skip)
  else
    let g ← g.separated first .flowSequenceSeparator .flowSequence
    let t ← g.peek
    match t.kind with
    | .key => return (⟨.mappingStart Properties.none, t.first⟩, g.skip.expect .pairKey)
    | .flowSequenceEnd => return (⟨.sequenceEnd, t.first⟩, g.close.skip)
    | _ => (g.push (.flowSequence false)).node false false

def endsItem (k : TokenKind) : Bool := k == .flowEntry || k == .flowSequenceEnd

def pairKey (g : Grammar) : Except Stop (Event × Grammar) := do
  let t ← g.peek
  if t.kind = .value || endsItem t.kind then
    return (emptyScalar t.behind, g.skip.expect .pairValue)
  else (g.push .pairValue).node false false

def pairValue (g : Grammar) : Except Stop (Event × Grammar) := do
  let t ← g.peek
  match t.kind with
  | .value => g.skip.nodeUnless endsItem false false .pairEnd (fun u => u.first)
  | _ => return (emptyScalar t.first, g.expect .pairEnd)

def pairEnd (g : Grammar) : Except Stop (Event × Grammar) := do
  let t ← g.peek
  return (⟨.mappingEnd, t.first⟩, g.expect (.flowSequence false))

def endsMember (k : TokenKind) : Bool := k == .flowEntry || k == .flowMappingEnd

def flowKey (g : Grammar) (first : Bool) : Except Stop (Event × Grammar) := do
  let g ← g.opened first
  let t ← g.peek
  if t.kind = .flowMappingEnd then return (⟨.mappingEnd, t.first⟩, g.close.skip)
  else
    let g ← g.separated first .flowMappingSeparator .flowMapping
    let t ← g.peek
    match t.kind with
    | .key =>
      g.skip.nodeUnless (fun k => k == .value || endsMember k) false false (.flowValue false)
        (fun u => u.first)
    | .flowMappingEnd => return (⟨.mappingEnd, t.first⟩, g.close.skip)
    | _ => (g.push (.flowValue true)).node false false

def flowValue (g : Grammar) (empty : Bool) : Except Stop (Event × Grammar) := do
  let t ← g.peek
  if !empty && t.kind = .value then
    g.skip.nodeUnless endsMember false false (.flowKey false) (fun u => u.first)
  else return (emptyScalar t.first, g.expect (.flowKey false))

def step (g : Grammar) : Except Stop (Event × Grammar) :=
  match g.expecting with
  | .documentStart first => g.documentStart first
  | .documentContent => g.documentContent
  | .documentEnd => g.documentEnd
  | .blockNode => g.node true false
  | .blockSequence first => g.blockSequence first
  | .indentlessSequence => g.indentlessSequence
  | .blockKey first => g.blockKey first
  | .blockValue => g.blockValue
  | .flowSequence first => g.flowSequence first
  | .pairKey => g.pairKey
  | .pairValue => g.pairValue
  | .pairEnd => g.pairEnd
  | .flowKey first => g.flowKey first
  | .flowValue empty => g.flowValue empty
  | .nothing => .error .tokensEnded

def run : Nat → Grammar → List Event × Option Stop
  | 0, _ => ([], some .tokensEnded)
  | fuel + 1, g =>
    match g.step with
    | .error e => ([], some e)
    | .ok (event, g) =>
      if event.kind = .streamEnd then ([event], none)
      else
        let (events, stop) := run fuel g
        (event :: events, stop)

end Grammar

/-- The events of a text, and the fault that ends them if it has one. Each token gives at most three
events. -/
def Event.ofTokens (tokens : List Token) (fault : Option SyntaxFault) :
    List Event × Option SyntaxFault :=
  match (Grammar.start tokens).run (4 * tokens.length + 8) with
  | (events, none) => (events, none)
  | (events, some .tokensEnded) => (events, fault)
  | (events, some (.fault f)) => (events, some f)

end AgentManifest.Yaml
