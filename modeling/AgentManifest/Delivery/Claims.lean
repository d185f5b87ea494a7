/-! Which agent each file of an output directory is meant for. Names fold into file names, so that
two agents can ask for one file; the first to claim it has it. -/

namespace AgentManifest

abbrev Claims := List (String × String)

structure Collision where
  agent : String
  path : String
  owner : String
  deriving DecidableEq, Repr

def Collision.text (c : Collision) : String :=
  s!"{c.agent} would overwrite {c.path}, already written for {c.owner}"

namespace Claims

def owner? (claims : Claims) (path : String) : Option String := claims.lookup path

def claim (claims : Claims) (path agent : String) : Except Collision Claims :=
  match claims.owner? path with
  | some owner => .error ⟨agent, path, owner⟩
  | none => .ok ((path, agent) :: claims)

end Claims
end AgentManifest
