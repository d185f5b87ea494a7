import AgentManifest.FilePath

/-! The formats of documents and the file extensions that go with them. A file of any other
extension is read as JSON, though a directory is only searched for the extensions named here. -/

namespace AgentManifest

inductive DocumentFormat where
  | json
  | yaml
  | toml
  deriving DecidableEq, Repr

namespace DocumentFormat

def name : DocumentFormat → String
  | .json => "JSON"
  | .yaml => "YAML"
  | .toml => "TOML"

def ofExtension? (extension : List Char) : Option DocumentFormat :=
  match String.ofList (Text.foldCase extension) with
  | "json" => some .json
  | "yaml" | "yml" => some .yaml
  | "toml" => some .toml
  | _ => none

def named? (path : String) : Option DocumentFormat := (FilePath.extension? path).bind ofExtension?

def ofPath (path : String) : DocumentFormat := (named? path).getD .json

end DocumentFormat
end AgentManifest
