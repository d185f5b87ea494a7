import AgentManifest.Url.Fault

/-! Why an agent cannot be written in the form of a sink. -/

namespace AgentManifest

inductive RenderError where
  | dollarQuote
  | baseUrl (fault : Url.Fault)
  deriving DecidableEq, Repr

def RenderError.text : RenderError → String
  | .dollarQuote => "agent specification contains '$$' and cannot be dollar-quoted"
  | .baseUrl fault => s!"invalid base URL: {fault.text}"

end AgentManifest
