import AgentManifest.Failure
import AgentManifest.Settings.Config
import AgentManifest.Text.Utf8
import AgentManifest.Workspace

/-! The configuration file in the directory of the program. It may be missing. -/

namespace AgentManifest.UserConfig

def ofBytes (path : String) (bytes : List UInt8) : Except ErrorChain UserConfig :=
  match Utf8.decode bytes with
  | .error _ => .error ⟨[s!"reading {path}", "stream did not contain valid UTF-8"]⟩
  | .ok text => (ofText text).mapError fun fault => ⟨[s!"parsing {path}", fault.text]⟩

def load {m : Type → Type} [Monad m] [MonadWorkspace m] (home : String) :
    m (Except ErrorChain (Option UserConfig)) := do
  let path := path home
  match ← MonadWorkspace.isFile path with
  | .error _ => return .ok none
  | .ok _ =>
    match ← MonadWorkspace.readFile path with
    | .error e => return .error ⟨[s!"reading {path}", e.text]⟩
    | .ok bytes => return (ofBytes path bytes).map some

end AgentManifest.UserConfig
