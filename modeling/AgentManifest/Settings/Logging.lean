import AgentManifest.Settings.Config
import AgentManifest.Settings.Home

/-! How the program logs. A variable that is set, be it to nothing, hides the entry of the
configuration it goes with. -/

namespace AgentManifest

inductive LogStyle where
  | json
  | compact
  | pretty
  | full
  deriving DecidableEq, Repr

def LogStyle.name : LogStyle → String
  | .json => "Json"
  | .compact => "Compact"
  | .pretty => "Pretty"
  | .full => "Full"

structure LogSettings where
  filter : String
  style : LogStyle
  toFile : Bool
  directory : Option String
  deriving DecidableEq, Repr

namespace LogSettings

structure NotBoolean where
  key : String
  deriving DecidableEq, Repr

def NotBoolean.text (e : NotBoolean) : String :=
  s!"Invalid environment variable {e.key}, failed to parse as bool: expected either true or false"

/-- The boolean of a word in any ASCII case, or of a digit. -/
def boolean? (value : String) : Option Bool :=
  match String.ofList (Text.foldCase value.toList) with
  | "1" | "true" => some true
  | "0" | "false" => some false
  | _ => none

def flag (env : Environment) (key : String) (absent : Bool) : Except NotBoolean Bool :=
  match env.get? key with
  | none => .ok absent
  | some value =>
    match boolean? value with
    | some b => .ok b
    | none => .error ⟨key⟩

/-- What counts of a variable's value and the entry of the configuration. -/
def layered {α : Type} (env : Environment) (keys : List String) (value : α)
    (config : Option α) : α :=
  if keys.any env.isSet then value else config.getD value

def filterOf (env : Environment) : String :=
  match env.get? "TRACING_FILTER" with
  | none | some "" => (env.get? "RUST_LOG").getD "info"
  | some filter => filter

def resolve (env : Environment) (config : Option LoggingConfig) :
    Except NotBoolean LogSettings := do
  let json ← flag env "TRACING_JSON" false
  let compact ← flag env "TRACING_COMPACT" true
  let pretty ← flag env "TRACING_PRETTY" false
  let toFile ← flag env "LOG_TO_FILE" false
  let json := layered env ["TRACING_JSON"] json (config.bind (·.json))
  let compact := layered env ["TRACING_COMPACT"] compact (config.bind (·.compact))
  let pretty := layered env ["TRACING_PRETTY"] pretty (config.bind (·.pretty))
  return {
    filter := layered env ["TRACING_FILTER", "RUST_LOG"] (filterOf env) (config.bind (·.level))
    style := if json then .json else if compact then .compact else if pretty then .pretty else .full
    toFile := layered env ["LOG_TO_FILE"] toFile (config.bind (·.toFile))
    directory := layered env ["LOG_DIR"] ((env.get? "LOG_DIR").filter (· ≠ ""))
      (config.bind fun c => c.directory.map fun d => some (env.expandHome d)) }

end LogSettings
end AgentManifest
