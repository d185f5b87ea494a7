import AgentManifest.CommandLine.Program
import AgentManifest.CommandLine.RunId

/-! The command line: the program in the working directory of its process. -/

namespace AgentManifest.CommandLine

def systemError : IO.Error → Option (UInt32 × String)
  | .alreadyExists _ code details | .otherError code details | .resourceBusy code details
  | .resourceVanished code details | .unsupportedOperation code details
  | .hardwareFault code details | .unsatisfiedConstraints code details
  | .illegalOperation code details | .protocolError code details | .timeExpired code details
  | .interrupted _ code details | .noFileOrDirectory _ code details
  | .invalidArgument _ code details | .permissionDenied _ code details
  | .resourceExhausted _ code details | .inappropriateType _ code details
  | .noSuchThing _ code details => some (code, details)
  | .unexpectedEof | .userError _ => none

def faultOf (e : IO.Error) : FileFault :=
  match systemError e with
  | none => .other (toString e)
  | some (2, _) => .notFound
  | some (17, _) => .exists
  | some (20, _) => .notDirectory
  | some (21, _) => .isDirectory
  | some (36, _) => .nameTooLong
  | some (40, _) => .tooManyLinks
  | some (code, details) => .other s!"{details} (os error {code})"

def attempt {α : Type} (action : IO α) : IO (Except FileFault α) :=
  tryCatch (.ok <$> action) fun e => return .error (faultOf e)

def kindOf (path : String) : IO IO.FS.FileType := do
  return (← (← IO.FS.realPath path).metadata).type

def isDirectory (path : String) : IO Bool := do
  match ← attempt (kindOf path) with
  | .ok .dir => return true
  | _ => return false

def textOf (absolute : Bool) (names : List String) : String :=
  (if absolute then "/" else "") ++ "/".intercalate names

def createDirectory (path : String) : IO (Except FileFault Unit) := do
  match ← attempt (IO.FS.createDir path) with
  | .error e => return if ← isDirectory path then .ok () else .error e
  | .ok () => return .ok ()

/-- Makes a directory at a path, and those of the given names before it, the last of them first. -/
def createAll (absolute : Bool) (path : String) : List String → IO (Except FileFault Unit)
  | [] => createDirectory path
  | last :: rest => do
    match ← createDirectory path with
    | .error .notFound =>
      match ← createAll absolute (textOf absolute (last :: rest).reverse) rest with
      | .error e => return .error e
      | .ok () => createDirectory path
    | result => return result

instance : MonadWorkspace IO where
  readFile path := attempt do return (← IO.FS.readBinFile path).toList
  isFile path := attempt do return (← kindOf path) == .file
  listDirectory path := attempt do
    return (← (← IO.FS.realPath path).readDir).toList.map (·.fileName)
  createDirectories path :=
    if path.isEmpty then return .ok ()
    else match Route.ofText path with
      | .error e => return .error e
      | .ok route => createAll route.absolute path route.before
  writeFile path text := attempt (IO.FS.writeFile path text)
  print text := do
    let output ← IO.getStdout
    output.putStr text
    output.flush
  log _ := return

def environment : IO Environment := do
  let found ← Program.environmentKeys.mapM fun key => return (← IO.getEnv key).map fun value => (key, value)
  return found.filterMap id

end AgentManifest.CommandLine

open AgentManifest in
def main (arguments : List String) : IO UInt32 := do
  let runId := RunId.ofBytes (← IO.getRandomBytes 16).toList
  let exit ← (Program.run arguments (← CommandLine.environment) runId : IO Program.Exit)
  (← IO.getStderr).putStr exit.messages
  return exit.code.toUInt32
