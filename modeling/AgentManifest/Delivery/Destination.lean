import AgentManifest.Delivery.Claims
import AgentManifest.Delivery.SafeName
import AgentManifest.Failure
import AgentManifest.Workspace

/-! Where the text that creates an agent is put: on the output, or in a file of its own in a
directory. A file is claimed before it is written, and stays claimed when that fails. -/

namespace AgentManifest

structure Receipt where
  agent : String
  destination : String
  deriving DecidableEq, Repr

structure Parcel where
  agent : String
  extension : String
  text : String
  deriving DecidableEq, Repr

namespace Parcel

def pathIn (p : Parcel) (directory : String) : String :=
  FilePath.join directory s!"{safeName p.agent}.{p.extension}"

def block (p : Parcel) : String :=
  if p.text.toList.getLast? = some '\n' then p.text else p.text ++ "\n"

end Parcel

inductive Destination where
  | output
  | directory (root : String)
  deriving DecidableEq, Repr

namespace Destination

variable {m : Type → Type} [Monad m] [MonadWorkspace m]

def claim (p : Parcel) (path : String) : StateT Claims m (Except ErrorChain Unit) :=
  modifyGet fun claims =>
    match claims.claim path p.agent with
    | .ok claims => (.ok (), claims)
    | .error collision => (.error ⟨[collision.text]⟩, claims)

def prepare (root : String) : m (Except ErrorChain Unit) := do
  match ← MonadWorkspace.createDirectories root with
  | .ok () => return .ok ()
  | .error e => return .error ⟨[s!"creating output directory {root}", e.text]⟩

def write (p : Parcel) (path : String) : m (Except ErrorChain Receipt) := do
  match ← MonadWorkspace.writeFile path p.text with
  | .ok () => return .ok ⟨p.agent, path⟩
  | .error e => return .error ⟨[s!"writing {path}", e.text]⟩

/-- Puts a parcel where it belongs: on the output as a block of its own, or into its file, which is
claimed, given a directory and written, in this order. -/
def deliver (p : Parcel) : Destination → StateT Claims m (Except ErrorChain Receipt)
  | .output => do
    MonadWorkspace.print p.block
    return .ok ⟨p.agent, "stdout"⟩
  | .directory root => do
    let path := p.pathIn root
    match ← claim p path with
    | .error e => return .error e
    | .ok () =>
      match ← prepare root with
      | .error e => return .error e
      | .ok () => write p path

end Destination
end AgentManifest
