import AgentManifest.Document.Reader
import AgentManifest.Record.Mismatch
import AgentManifest.Resolution.Issue

/-! Why a document failed. A failure has a sentence of its own, a summary that names the stage, and
one detail line for each thing that is wrong. -/

namespace AgentManifest

inductive BuildError where
  | parse (e : ParseError)
  | validation (e : ValidationError)
  /-- The document meets the schema, but is no agent. -/
  | decode (m : Mismatch)
  | resolution (e : ResolveError)

namespace BuildError

def text : BuildError → String
  | .parse e => e.text
  | .validation e => e.text
  | .decode m => s!"validated document does not decode into a create request: {m.text}"
  | .resolution e => e.text

def summary : BuildError → String
  | .parse e => s!"could not parse {e.format.name} document"
  | .validation e => s!"document does not match {e.schema}"
  | .decode _ => "validated document could not be decoded"
  | .resolution _ => "tool resources could not be resolved"

def details : BuildError → List String
  | .validation e => e.violations.map Violation.text
  | .resolution e => e.lines
  | e => [e.text]

def count : BuildError → Nat
  | .validation e => e.violations.length
  | .resolution e => e.count
  | .parse _ | .decode _ => 1

end BuildError

structure ErrorChain where
  contexts : List String
  deriving DecidableEq, Repr

namespace ErrorChain

def within (c : ErrorChain) (context : String) : ErrorChain := ⟨context :: c.contexts⟩

def text (c : ErrorChain) : String := ": ".intercalate c.contexts

def message (c : ErrorChain) : String := c.contexts.headD ""

end ErrorChain

inductive DocumentFailure where
  | read (path message : String)
  | build (e : BuildError)
  | sink (name : String) (chain : ErrorChain)
  | aborted (reason : String)

namespace DocumentFailure

def text : DocumentFailure → String
  | .read path message => s!"could not read {path}: {message}"
  | .build e => e.text
  | .sink name chain => s!"{name} sink failed: {chain.text}"
  | .aborted reason => s!"processing task aborted: {reason}"

def summary : DocumentFailure → String
  | .build e => e.summary
  | .read .. => "document could not be read"
  | .sink name _ => s!"agent could not be written by the {name} sink"
  | .aborted _ => "document processing was aborted"

def details : DocumentFailure → List String
  | .build e => e.details
  | f => [f.text]

def count : DocumentFailure → Nat
  | .build e => e.count
  | .read .. | .sink .. | .aborted _ => 1

def report (file : String) (f : DocumentFailure) : String :=
  s!"# Error summary\n{file}: {f.summary}\n\n# Error details\n"
    ++ String.join (f.details.map (· ++ "\n"))
    ++ s!"\n# Error count\n{f.count}\n"

end DocumentFailure
end AgentManifest
