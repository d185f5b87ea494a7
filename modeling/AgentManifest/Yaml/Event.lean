import AgentManifest.Yaml.Fault
import AgentManifest.Yaml.Token

/-! The events of a YAML stream: documents, and in them the starts and ends of sequences and
mappings, scalars, and aliases. Tags are resolved against the directives of their document. -/

namespace AgentManifest.Yaml

structure Properties where
  anchor : Option String
  tag : Option String
  deriving DecidableEq, Repr

def Properties.none : Properties := ⟨Option.none, Option.none⟩

inductive EventKind where
  | documentStart
  | documentEnd
  | streamEnd
  | alias (name : String)
  | scalar (properties : Properties) (text : String) (style : ScalarStyle)
  | sequenceStart (properties : Properties)
  | sequenceEnd
  | mappingStart (properties : Properties)
  | mappingEnd
  deriving DecidableEq, Repr

structure Event where
  kind : EventKind
  mark : Mark
  deriving DecidableEq, Repr

end AgentManifest.Yaml
