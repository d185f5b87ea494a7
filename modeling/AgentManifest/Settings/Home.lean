import AgentManifest.FilePath
import AgentManifest.Text.Blank

/-! The directory that configuration and logs are kept in, and paths that start at a user's home. -/

namespace AgentManifest

abbrev Environment := List (String × String)

namespace Environment

def get? (env : Environment) (key : String) : Option String := env.lookup key

def isSet (env : Environment) (key : String) : Bool := (env.get? key).isSome

def isBlank (text : String) : Bool := text.toList.all Text.isBlank

def filled? (env : Environment) (key : String) : Option String :=
  (env.get? key).filter fun value => !isBlank value

/-- A path in which a leading `~/` stands for the user's home, where that is known. -/
def expandHome (env : Environment) (path : String) : String :=
  match path.toList, env.get? "HOME" with
  | '~' :: '/' :: rest, some home => FilePath.join home (String.ofList rest)
  | _, _ => path

def programHome (env : Environment) : String :=
  match env.filled? "CORTEX_INTAKE_HOME" with
  | some home => env.expandHome home
  | none =>
    match env.get? "HOME" with
    | some home => FilePath.join home ".cortex-intake"
    | none => ".cortex-intake"

end Environment
end AgentManifest
