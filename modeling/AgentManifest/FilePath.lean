import AgentManifest.Text.Blank
import AgentManifest.Text.Split

/-! Paths of files as text. Components are separated by slashes; empty components and single dots
say nothing, and two dots name no file. -/

namespace AgentManifest.FilePath

def components (path : String) : List (List Char) :=
  (Text.splitAt '/' path.toList).filter fun c => c ≠ [] && c ≠ ['.']

def fileName? (path : String) : Option (List Char) :=
  match (components path).getLast? with
  | some name => if name = ['.', '.'] then none else some name
  | none => none

/-- What follows the last dot of a name, unless nothing precedes that dot. -/
def extensionOf? (name : List Char) : Option (List Char) :=
  match (Text.splitAt '.' name).reverse with
  | [] | [_] | [_, []] => none
  | last :: _ :: _ => some last

def extension? (path : String) : Option (List Char) := (fileName? path).bind extensionOf?

/-- A path seen from a directory. An absolute path is its own, and an empty directory says nothing. -/
def join (directory path : String) : String :=
  match path.toList with
  | '/' :: _ => path
  | rest =>
    let lead := directory.toList
    if lead = [] || lead.getLast? = some '/' then String.ofList (lead ++ rest)
    else String.ofList (lead ++ '/' :: rest)

end AgentManifest.FilePath
