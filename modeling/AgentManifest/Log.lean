/-! What is logged while documents are worked on. Only warnings and errors are kept. -/

namespace AgentManifest

inductive LogLevel where
  | warning
  | error
  deriving DecidableEq, Repr

structure LogLine where
  level : LogLevel
  message : String
  deriving DecidableEq, Repr

namespace LogLine

def warning (message : String) : LogLine := ⟨.warning, message⟩

def error (message : String) : LogLine := ⟨.error, message⟩

def text (l : LogLine) : String :=
  match l.level with
  | .warning => s!"WARN: {l.message}"
  | .error => s!"ERROR: {l.message}"

end LogLine

structure Logged (α : Type) where
  result : α
  log : List LogLine

end AgentManifest
