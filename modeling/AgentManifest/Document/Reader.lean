import AgentManifest.Document.Format
import AgentManifest.Document.Location
import AgentManifest.Json.Reader
import AgentManifest.Text.Position
import AgentManifest.Text.Utf8
import AgentManifest.Toml.Value
import AgentManifest.Yaml.Value

/-! Reading the bytes of a document as a value tree, in the format its name calls for. Whatever the
format, bytes that are no UTF-8 text are refused first, at the first of them. -/

namespace AgentManifest

structure ParseError where
  filename : String
  format : DocumentFormat
  line : Option Nat
  column : Option Nat
  message : String
  deriving DecidableEq, Repr

namespace ParseError

def positionText (e : ParseError) : String :=
  match e.line, e.column with
  | some l, some c => s!":{l}:{c}"
  | some l, none => s!":{l}"
  | none, _ => ""

def text (e : ParseError) : String :=
  s!"{e.filename}{e.positionText}: invalid {e.format.name}: {e.message}"

end ParseError

namespace Document

structure Complaint where
  line : Option Nat
  column : Option Nat
  message : String
  deriving DecidableEq, Repr

def Complaint.inFile (c : Complaint) (filename : String) (format : DocumentFormat) : ParseError :=
  ⟨filename, format, c.line, c.column, c.message⟩

def Complaint.at (p : Position) (message : String) : Complaint := ⟨some p.line, some p.column, message⟩

/-- A column of zero, behind a line end, is left out. -/
def ofJsonError (e : Json.ReadError) : Complaint :=
  ⟨some e.line, if e.column = 0 then none else some e.column, withoutLocation e.text⟩

def ofYamlError (e : Yaml.ReadError) : Complaint :=
  match e.mark? with
  | some mark => ⟨some (mark.line + 1), some (mark.column + 1), withoutLocation e.text⟩
  | none => ⟨none, none, withoutLocation e.text⟩

def ofTomlFault (bytes : List UInt8) (f : Toml.Fault) : Complaint :=
  match f.offset with
  | some offset => .at (Position.ofOffset bytes offset) f.problem.text
  | none => ⟨none, none, f.problem.text⟩

def readText (format : DocumentFormat) (text : String) : Except Complaint Json :=
  match format with
  | .json => (Json.parseDistinct text).mapError ofJsonError
  | .yaml => (Yaml.parse text).mapError ofYamlError
  | .toml => (Toml.parse text).mapError (ofTomlFault text.toUTF8.toList)

def readBytes (format : DocumentFormat) (bytes : List UInt8) : Except Complaint Json :=
  match Utf8.decode bytes with
  | .ok text => readText format text
  | .error fault =>
    .error (.at (Position.ofOffset bytes fault.validUpTo) s!"invalid UTF-8: {fault.message}")

def read (filename : String) (bytes : List UInt8) : Except ParseError Json :=
  let format := DocumentFormat.ofPath filename
  (readBytes format bytes).mapError (·.inFile filename format)

end Document
end AgentManifest
