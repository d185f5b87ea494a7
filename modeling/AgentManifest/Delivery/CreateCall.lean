import AgentManifest.Agent.Basic
import AgentManifest.Delivery.Endpoint
import AgentManifest.Delivery.RenderError

/-! Agents as calls that create them: a method, an address and a body, written as one value tree.
Without a base address the address is left open. -/

namespace AgentManifest.CreateCall

def tree (a : Agent) (endpoint : Option String) : Json :=
  .object [
    ("body", a.requestBody),
    ("endpoint", match endpoint with
      | some address => .string address
      | none => .null),
    ("method", .string "POST")]

def render (a : Agent) (mode : CreateMode) (baseUrl : Option String) : Except RenderError String :=
  match baseUrl with
  | none => .ok (tree a none).pretty
  | some base =>
    match Endpoint.create base a.database a.schema mode with
    | .ok address => .ok (tree a (some address)).pretty
    | .error fault => .error (.baseUrl fault)

end AgentManifest.CreateCall
