import AgentManifest.Files.Tree
import AgentManifest.Log

/-! Where work is done: files to read and write, an output to print to, and a log. The work is
written once for every monad that offers these; a workspace in memory is one of them. -/

namespace AgentManifest

class MonadWorkspace (m : Type → Type) where
  readFile : String → m (Except FileFault (List UInt8))
  /-- Whether a path leads to a file, links followed. -/
  isFile : String → m (Except FileFault Bool)
  /-- The names in a directory, in no particular order. -/
  listDirectory : String → m (Except FileFault (List String))
  /-- Makes a directory and those that lead to it, unless it is there. -/
  createDirectories : String → m (Except FileFault Unit)
  writeFile : String → String → m (Except FileFault Unit)
  print : String → m Unit
  log : List LogLine → m Unit

namespace MonadWorkspace

instance {m : Type → Type} {σ : Type} [Monad m] [MonadWorkspace m] :
    MonadWorkspace (StateT σ m) where
  readFile path := StateT.lift (readFile path)
  isFile path := StateT.lift (isFile path)
  listDirectory path := StateT.lift (listDirectory path)
  createDirectories path := StateT.lift (createDirectories path)
  writeFile path text := StateT.lift (writeFile path text)
  print text := StateT.lift (print text)
  log lines := StateT.lift (log lines)

end MonadWorkspace

structure Workspace where
  files : FileTree := .empty
  printed : String := ""
  log : List LogLine := []

namespace Workspace

def look {α : Type} (f : FileTree → α) : StateM Workspace α := do
  return f (← get).files

instance : MonadWorkspace (StateM Workspace) where
  readFile path := look (·.read path)
  isFile path := look (·.isFile path)
  listDirectory path := look (·.list path)
  createDirectories path := modifyGet fun w =>
    let (result, files) := w.files.createDirectories path
    (result, { w with files })
  writeFile path text := modifyGet fun w =>
    match w.files.write path text.toUTF8.toList with
    | .ok files => (.ok (), { w with files })
    | .error e => (.error e, w)
  print text := modify fun w => { w with printed := w.printed ++ text }
  log lines := modify fun w => { w with log := w.log ++ lines }

end Workspace
end AgentManifest
