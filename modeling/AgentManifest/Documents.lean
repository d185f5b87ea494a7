import AgentManifest.Document.Format
import AgentManifest.Failure
import AgentManifest.Workspace

/-! The documents in a directory: the files in it whose extension names a format, in the order of
their names. Directories within it are not searched, and links are followed. -/

namespace AgentManifest.Documents

variable {m : Type → Type} [Monad m] [MonadWorkspace m]

def isSupported (name : String) : Bool := (DocumentFormat.named? name).isSome

/-- The names of documents that lead to a file, in the order given. A link that leads nowhere is
passed over with a warning. -/
def files (directory : String) : List String → m (List String)
  | [] => return []
  | name :: rest =>
    if isSupported name then do
      let path := FilePath.join directory name
      match ← MonadWorkspace.isFile path with
      | .ok true => return name :: (← files directory rest)
      | .ok false => files directory rest
      | .error e =>
        MonadWorkspace.log [.warning s!"skipping {path}: {e.text}"]
        files directory rest
    else files directory rest

/-- Looks at the names as the directory is listed, and sorts those found. -/
def find (directory : String) : m (Except ErrorChain (List String)) := do
  match ← MonadWorkspace.listDirectory directory with
  | .error e => return .error ⟨[s!"reading directory {directory}", e.text]⟩
  | .ok names =>
    let found ← files directory names
    return .ok ((found.mergeSort fun a b => decide (a ≤ b)).map (FilePath.join directory))

end AgentManifest.Documents
