import AgentManifest.Build.Overrides
import AgentManifest.Failure
import AgentManifest.Resolution.Join
import AgentManifest.Schema.AgentSchema

/-! Building agents from documents: the document is read, overridden, held to the schema, read as a
record, and its tools are joined with their resources. -/

namespace AgentManifest

structure Builder where
  agent : SubSchema
  resources : ResourceSchemas
  policy : MissingResourcePolicy

namespace Builder

/-- Chooses the parts of the schema; the first that is not there is reported. -/
def ofStore (store : SchemaStore) (policy : MissingResourcePolicy) : Except SchemaError Builder := do
  return {
    agent := ← store.lookup AgentSchema.agentPath
    resources := ← ResourceSchemas.ofStore store
    policy }

def join (b : Builder) (r : CreateRequest) : Logged (Except BuildError Agent) where
  result := match Resolution.resolve b.resources b.policy r.tools r.resources with
    | .ok resources => .ok (.ofRequest r resources)
    | .error e => .error (.resolution e)
  log := Resolution.log b.resources b.policy r.tools r.resources

def buildTree (b : Builder) (v : Json) : Logged (Except BuildError Agent) :=
  let notices := (b.agent.notices v).map .warning
  match b.agent.validate v with
  | .error e => ⟨.error (.validation e), notices⟩
  | .ok v =>
    match CreateRequest.read v with
    | .error m =>
      ⟨.error (.decode m),
        notices ++ [.error s!"schema/type mismatch while decoding agent document: {m.text}"]⟩
    | .ok request =>
      let joined := b.join request
      ⟨joined.result, notices ++ joined.log⟩

def build (b : Builder) (overrides : Overrides) (filename : String) (bytes : List UInt8) :
    Logged (Except BuildError Agent) :=
  match Document.read filename bytes with
  | .error e => ⟨.error (.parse e), []⟩
  | .ok v => b.buildTree (overrides.apply v)

end Builder
end AgentManifest
