import AgentManifest.Delivery.CreateCall
import AgentManifest.Delivery.Destination
import AgentManifest.Delivery.Statement

/-! What takes agents once they are built. A sink answers with a receipt, fails, or gives up, which
ends the work on the document without an answer. -/

namespace AgentManifest

inductive Emission where
  | delivered (receipt : Receipt)
  | failed (chain : ErrorChain)
  | gaveUp (message : String)

structure Sink (m : Type → Type) where
  name : String
  emit : Agent → m Emission

inductive OutputForm where
  /-- A call with a body, and an address if a base address is known. -/
  | createCall (baseUrl : Option String)
  | statement
  deriving DecidableEq, Repr

namespace OutputForm

def name : OutputForm → String
  | .createCall _ => "json"
  | .statement => "sql"

def render (form : OutputForm) (mode : CreateMode) (a : Agent) : Except RenderError String :=
  match form with
  | .createCall baseUrl => CreateCall.render a mode baseUrl
  | .statement => (CreateStatement.ofAgent a mode).map CreateStatement.text

def parcel (form : OutputForm) (mode : CreateMode) (a : Agent) : Except RenderError Parcel :=
  (form.render mode a).map fun text => ⟨a.qualifiedName, form.name, text⟩

end OutputForm

/-- The sentences on a text that could not be written. The cause of a bad address is told twice. -/
def RenderError.chain : RenderError → ErrorChain
  | .dollarQuote => ⟨[RenderError.dollarQuote.text]⟩
  | .baseUrl fault => ⟨[(RenderError.baseUrl fault).text, fault.text]⟩

namespace Sink

variable {m : Type → Type} [Monad m] [MonadWorkspace m]

def writing (form : OutputForm) (mode : CreateMode) (destination : Destination) :
    Sink (StateT Claims m) where
  name := form.name
  emit a :=
    match form.parcel mode a with
    | .error e => pure (.failed e.chain)
    | .ok parcel => do
      match ← destination.deliver parcel with
      | .ok receipt => return .delivered receipt
      | .error chain => return .failed chain

end Sink
end AgentManifest
