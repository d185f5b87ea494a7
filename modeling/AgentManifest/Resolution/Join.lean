import AgentManifest.Agent.Basic
import AgentManifest.Log
import AgentManifest.Resolution.Issue
import AgentManifest.Resolution.Policy

/-! Joining declared tools with tool resource entries by name. The first tool of a name decides the
form of the entry of that name, and the first entry of a name counts. Issues come in this order:
tools declared again, then entries as they stand, then tools without an entry. -/

namespace AgentManifest

structure ResourceSchemas where
  analyst : SubSchema
  search : SubSchema
  generic : SubSchema

namespace ResourceSchemas

def lookup (store : SchemaStore) (t : ToolType) : Except SchemaError SubSchema :=
  match t.resourcePath? with
  | some path => store.lookup path
  | none => .error (.notFound s!"resource schema for {t.name}")

def ofStore (store : SchemaStore) : Except SchemaError ResourceSchemas := do
  return {
    analyst := ← lookup store .analyst
    search := ← lookup store .search
    generic := ← lookup store .generic }

def ofType? (schemas : ResourceSchemas) : ToolType → Option SubSchema
  | .analyst => some schemas.analyst
  | .search => some schemas.search
  | .generic => some schemas.generic
  | .chart => none

end ResourceSchemas

namespace Resolution

inductive PayloadFault where
  | noResourceTaken (toolType : ToolType)
  | twoSources
  | noSource
  | unreadable (m : Mismatch)

def PayloadFault.violation (place : FieldPath) : PayloadFault → Violation
  | .noResourceTaken t => ⟨place, .notAllowed, s!"{t.name} tools do not take a tool resource"⟩
  | .twoSources =>
    ⟨place.field "semantic_model_file", .notAllowed,
      "semantic_view and semantic_model_file are mutually exclusive"⟩
  | .noSource =>
    ⟨place.field "semantic_view", .missingField,
      "one of semantic_view or semantic_model_file is required"⟩
  | .unreadable m => ⟨place, .typeMismatch, m.text⟩

/-- An analyst resource names exactly one semantic source. -/
def withOneSource (r : AnalystResource) : Except PayloadFault AnalystResource :=
  match r.semanticView, r.semanticModelFile with
  | some _, none | none, some _ => .ok r
  | some _, some _ => .error .twoSources
  | none, none => .error .noSource

def readPayload (t : ToolType) (v : Json) : Except PayloadFault ToolResource :=
  match t with
  | .analyst =>
    match AnalystResource.read v with
    | .ok r => (withOneSource r).map .analyst
    | .error m => .error (.unreadable m)
  | .search => ((SearchResource.read v).map .search).mapError .unreadable
  | .generic => ((GenericResource.read v).map .generic).mapError .unreadable
  | .chart => .error (.noResourceTaken .chart)

def PayloadFault.log : PayloadFault → List LogLine
  | .unreadable m => [.error s!"validated tool resource does not decode: {m.text}"]
  | .noResourceTaken _ | .twoSources | .noSource => []

def accept (schemas : ResourceSchemas) (t : ToolType) (place : FieldPath) (payload : Members) :
    Logged (Except (List Violation) ToolResource) :=
  match schemas.ofType? t with
  | none => ⟨.error [(PayloadFault.noResourceTaken t).violation place], []⟩
  | some sub =>
    let v := Json.object payload
    let notices := (sub.notices v).map .warning
    match sub.violations v with
    | [] =>
      match readPayload t v with
      | .ok r => ⟨.ok r, notices⟩
      | .error fault => ⟨.error [fault.violation place], notices ++ fault.log⟩
    | found => ⟨.error (found.map (·.under place)), notices⟩

def typeOf? (tools : List Tool) (name : String) : Option ToolType :=
  (tools.find? (·.name = name)).map Tool.toolType

abbrev Verdict := Except ResourceIssue (String × ToolResource)

def judge (schemas : ResourceSchemas) (tools : List Tool) (earlier : List String) (position : Nat)
    (e : ResourceEntry) : Logged Verdict :=
  if e.name ∈ earlier then ⟨.error (.duplicateResource e.name), []⟩
  else match typeOf? tools e.name with
    | none => ⟨.error (.unmatched e.name), []⟩
    | some t =>
      let accepted := accept schemas t (FieldPath.root.field "tool_resources" |>.index position)
        e.payload
      match accepted.result with
      | .ok r => ⟨.ok (e.name, r), accepted.log⟩
      | .error found => ⟨.error (.invalidPayload e.name t found), accepted.log⟩

def judgeAll (schemas : ResourceSchemas) (tools : List Tool) (earlier : List String)
    (position : Nat) : List ResourceEntry → List (Logged Verdict)
  | [] => []
  | e :: rest =>
    judge schemas tools earlier position e
      :: judgeAll schemas tools (e.name :: earlier) (position + 1) rest

def repeated (earlier : List String) : List String → List String
  | [] => []
  | name :: rest =>
    if name ∈ earlier then name :: repeated earlier rest else repeated (name :: earlier) rest

def firstOfName (earlier : List String) : List Tool → List Tool
  | [] => []
  | t :: rest =>
    if t.name ∈ earlier then firstOfName earlier rest
    else t :: firstOfName (t.name :: earlier) rest

def unserved (tools : List Tool) (entries : List ResourceEntry) : List Tool :=
  (firstOfName [] tools).filter fun t =>
    t.toolType.takesResource && t.name ∉ entries.map (·.name)

def unservedIssues (policy : MissingResourcePolicy) (tools : List Tool) : List ResourceIssue :=
  match policy with
  | .strict => tools.map fun t => .missing t.name t.toolType
  | .lenient => []

def unservedLog (policy : MissingResourcePolicy) (tools : List Tool) : List LogLine :=
  match policy with
  | .strict => []
  | .lenient => tools.map fun t =>
    .warning s!"tool '{t.name}' ({t.toolType.name}) has no tool resource; continuing without one"

def issues (schemas : ResourceSchemas) (policy : MissingResourcePolicy) (tools : List Tool)
    (entries : List ResourceEntry) : List ResourceIssue :=
  (repeated [] (tools.map (·.name))).map .duplicateTool
    ++ (judgeAll schemas tools [] 0 entries).filterMap (fun v => match v.result with
      | .ok _ => none
      | .error issue => some issue)
    ++ unservedIssues policy (unserved tools entries)

def resources (schemas : ResourceSchemas) (tools : List Tool) (entries : List ResourceEntry) :
    Keyed ToolResource :=
  Keyed.ofList ((judgeAll schemas tools [] 0 entries).filterMap (·.result.toOption))

def log (schemas : ResourceSchemas) (policy : MissingResourcePolicy) (tools : List Tool)
    (entries : List ResourceEntry) : List LogLine :=
  (judgeAll schemas tools [] 0 entries).flatMap Logged.log
    ++ unservedLog policy (unserved tools entries)

def resolve (schemas : ResourceSchemas) (policy : MissingResourcePolicy) (tools : List Tool)
    (entries : List ResourceEntry) : Except ResolveError (Keyed ToolResource) :=
  match issues schemas policy tools entries with
  | [] => .ok (resources schemas tools entries)
  | found => .error ⟨found⟩

end Resolution
end AgentManifest
