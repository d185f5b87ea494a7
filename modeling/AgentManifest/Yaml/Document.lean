import AgentManifest.Yaml.Event.Grammar
import AgentManifest.Yaml.Token.Lexer

/-! The first document of a stream, as the items of its node. An anchor is known by a number, and
the number leads to the item it stands on; an alias is the number of its anchor. -/

namespace AgentManifest.Yaml

inductive Item where
  | alias (id : Nat)
  | scalar (tag : Option String) (text : String) (style : ScalarStyle)
  | sequenceStart (tag : Option String)
  | sequenceEnd
  | mappingStart (tag : Option String)
  | mappingEnd
  /-- The whole content of a stream without documents. -/
  | nothing
  deriving DecidableEq, Repr

inductive DocumentFault where
  | syntaxFault (f : SyntaxFault)
  | unknownAnchor (mark : Mark)
  deriving DecidableEq, Repr

/-- A document: its items with their places, where the anchors stand, how it breaks off, and
whether anything follows it in the stream. -/
structure Document where
  items : Array (Item × Mark)
  /-- Which item an anchor number stands on; the first entry for a number counts. -/
  targets : List (Nat × Nat)
  fault : Option DocumentFault
  more : Bool
  deriving Repr

namespace Document

structure Gathering where
  items : Array (Item × Mark)
  anchors : List (String × Nat)
  targets : List (Nat × Nat)

namespace Gathering

/-- Notes an anchor on the item that comes next. Its number is the count of names known before, so
that a name that is given anew shares its number with the next new name. -/
def note (g : Gathering) (anchor : Option String) : Gathering :=
  match anchor with
  | none => g
  | some name =>
    let id := g.anchors.length
    { g with
      anchors := (name, id) :: g.anchors.filter (fun a => a.1 != name)
      targets := (id, g.items.size) :: g.targets }

def add (g : Gathering) (item : Item) (mark : Mark) : Gathering :=
  { g with items := g.items.push (item, mark) }

end Gathering

def moreFollows (events : List Event) : Bool :=
  match events with
  | [] => true
  | e :: _ => e.kind ≠ .streamEnd

def gather (fault : Option SyntaxFault) : Gathering → List Event → Document
  | g, [] => ⟨g.items, g.targets, fault.map .syntaxFault, false⟩
  | g, e :: rest =>
    match e.kind with
    | .documentStart => gather fault g rest
    | .documentEnd => ⟨g.items, g.targets, none, moreFollows rest⟩
    | .streamEnd =>
      let g := if g.items.isEmpty then g.add .nothing e.mark else g
      ⟨g.items, g.targets, none, false⟩
    | .alias name =>
      match g.anchors.lookup name with
      | some id => gather fault (g.add (.alias id) e.mark) rest
      | none => ⟨g.items, g.targets, some (.unknownAnchor e.mark), false⟩
    | .scalar p text style =>
      gather fault ((g.note p.anchor).add (.scalar p.tag text style) e.mark) rest
    | .sequenceStart p => gather fault ((g.note p.anchor).add (.sequenceStart p.tag) e.mark) rest
    | .sequenceEnd => gather fault (g.add .sequenceEnd e.mark) rest
    | .mappingStart p => gather fault ((g.note p.anchor).add (.mappingStart p.tag) e.mark) rest
    | .mappingEnd => gather fault (g.add .mappingEnd e.mark) rest

def ofText (text : List Char) : Document :=
  let (tokens, fault) := Token.scan text
  let (events, fault) := Event.ofTokens tokens fault
  gather fault ⟨#[], [], []⟩ events

end Document
end AgentManifest.Yaml
