import AgentManifest.Settings.Effective

/-! The arguments of a call. Options may stand anywhere; what is no option is a document, and so is
everything behind a bare `--`. The value of an option stands behind it or behind an equals sign. A
value is judged when the next argument comes, so that the first fault is not always the one
reported. -/

namespace AgentManifest

/-- What is wrong with the arguments, told in one line. -/
inductive UsageError where
  | missingValue (argument : String)
  | invalidValue (value argument : String) (reason : Option String)
  | repeated (argument : String)
  | unexpected (argument : String)
  | unexpectedValue (value argument : String)
  deriving DecidableEq, Repr

namespace UsageError

def text : UsageError → String
  | .missingValue argument => s!"a value is required for '{argument}' but none was supplied"
  | .invalidValue value argument none => s!"invalid value '{value}' for '{argument}'"
  | .invalidValue value argument (some reason) =>
    s!"invalid value '{value}' for '{argument}': {reason}"
  | .repeated argument => s!"the argument '{argument}' cannot be used multiple times"
  | .unexpected argument => s!"unexpected argument '{argument}' found"
  | .unexpectedValue value argument =>
    s!"unexpected value '{value}' for '{argument}' found; no more were expected"

end UsageError

inductive OutputKind where
  | createCall
  | statement
  deriving DecidableEq, Repr

structure CommandOptions where
  files : List String := []
  directory : Option String := none
  database : Option String := none
  schema : Option String := none
  name : Option String := none
  createMode : Option CreateMode := none
  kind : Option OutputKind := none
  output : Option String := none
  check : Bool := false
  baseUrl : Option String := none
  missingResources : Option MissingResourcePolicy := none
  maxConcurrency : Option Nat := none
  deriving DecidableEq, Repr

inductive ValueOption where
  | directory
  | database
  | schema
  | name
  | createMode
  | kind
  | output
  | baseUrl
  | missingResources
  | maxConcurrency
  deriving DecidableEq, Repr

namespace ValueOption

def key : ValueOption → String
  | .directory => "dir"
  | .database => "database"
  | .schema => "schema"
  | .name => "name"
  | .createMode => "create-mode"
  | .kind => "format"
  | .output => "out"
  | .baseUrl => "base-url"
  | .missingResources => "missing-resources"
  | .maxConcurrency => "max-concurrency"

def all : List ValueOption :=
  [.directory, .database, .schema, .name, .createMode, .kind, .output, .baseUrl, .missingResources,
    .maxConcurrency]

def ofKey? (key : String) : Option ValueOption := all.find? (·.key = key)

def label (o : ValueOption) : String :=
  let placeholder := o.key.toList.map fun c => if c = '-' then '_' else c.toUpper
  s!"--{o.key} <{String.ofList placeholder}>"

end ValueOption

namespace CommandOptions

def has (c : CommandOptions) : ValueOption → Bool
  | .directory => c.directory.isSome
  | .database => c.database.isSome
  | .schema => c.schema.isSome
  | .name => c.name.isSome
  | .createMode => c.createMode.isSome
  | .kind => c.kind.isSome
  | .output => c.output.isSome
  | .baseUrl => c.baseUrl.isSome
  | .missingResources => c.missingResources.isSome
  | .maxConcurrency => c.maxConcurrency.isSome

def pathValue (argument value : String) : Except UsageError String :=
  if value.isEmpty then .error (.missingValue argument) else .ok value

def kindValue (argument value : String) : Except UsageError OutputKind :=
  match value with
  | "json" => .ok .createCall
  | "sql" => .ok .statement
  | "" => .error (.missingValue argument)
  | _ => .error (.invalidValue value argument none)

def set (c : CommandOptions) (o : ValueOption) (value : String) :
    Except UsageError CommandOptions := do
  if c.has o then throw (.repeated o.label)
  let refuse (reason : String) : UsageError := .invalidValue value o.label (some reason)
  match o with
  | .directory => return { c with directory := some (← pathValue o.label value) }
  | .database => return { c with database := some value }
  | .schema => return { c with schema := some value }
  | .name => return { c with name := some value }
  | .createMode =>
    let mode ← (CreateMode.ofText value).mapError fun e => refuse e.message
    return { c with createMode := some mode }
  | .kind => return { c with kind := some (← kindValue o.label value) }
  | .output => return { c with output := some (← pathValue o.label value) }
  | .baseUrl => return { c with baseUrl := some value }
  | .missingResources =>
    let policy ← (MissingResourcePolicy.ofText value).mapError fun e => refuse e.text
    return { c with missingResources := some policy }
  | .maxConcurrency =>
    let count ← (countOfText value.toList).mapError fun e => refuse e.text
    return { c with maxConcurrency := some count }

def filesLabel : String := "[FILES]..."

def addFiles (c : CommandOptions) : List String → Except UsageError CommandOptions
  | [] => .ok c
  | file :: rest => do
    let file ← pathValue filesLabel file
    addFiles { c with files := c.files ++ [file] } rest

inductive Pending where
  | nothing
  | option (o : ValueOption) (value : Option String)
  | files (paths : List String)

inductive Stop where
  | usage (e : UsageError)
  | help
  | version

def settle (c : CommandOptions) : Pending → Except Stop CommandOptions
  | .nothing => .ok c
  | .option o none => .error (.usage (.missingValue o.label))
  | .option o (some value) => (c.set o value).mapError .usage
  | .files paths => (c.addFiles paths).mapError .usage

def splitValue (text : List Char) : String × Option String :=
  match text.span (· ≠ '=') with
  | (key, []) => (String.ofList key, none)
  | (key, _ :: value) => (String.ofList key, some (String.ofList value))

def readLong (c : CommandOptions) (pending : Pending) (key : String) (value : Option String) :
    Except Stop (CommandOptions × Pending) := do
  match ValueOption.ofKey? key with
  | some o =>
    let c ← c.settle pending
    match value with
    | some value => return (← (c.set o value).mapError .usage, .nothing)
    | none => return (c, .option o none)
  | none =>
    if key ∉ ["check", "help", "version"] then
      throw (.usage (.unexpected s!"--{key}"))
    match value with
    | some value => throw (.usage (.unexpectedValue value s!"--{key}"))
    | none =>
      let c ← c.settle pending
      if key = "help" then throw .help
      else if key = "version" then throw .version
      else if c.check then throw (.usage (.repeated "--check"))
      else return ({ c with check := true }, .nothing)

def readShort (c : CommandOptions) (pending : Pending) (letter : Char) : Stop :=
  match letter, c.settle pending with
  | 'h', .ok _ => .help
  | 'V', .ok _ => .version
  | 'h', .error stop | 'V', .error stop => stop
  | _, _ => .usage (.unexpected s!"-{letter}")

def readFile (c : CommandOptions) (pending : Pending) (path : String) :
    Except Stop (CommandOptions × Pending) := do
  match pending with
  | .files paths => return (c, .files (paths ++ [path]))
  | other => return (← c.settle other, .files [path])

def read (c : CommandOptions) (pending : Pending) : List String → Except Stop CommandOptions
  | [] => c.settle pending
  | argument :: rest => do
    match argument.toList, pending with
    | ['-', '-'], _ =>
      let (c, pending) ← rest.foldlM (fun (c, pending) path => readFile c pending path) (c, pending)
      c.settle pending
    | '-' :: '-' :: text, _ =>
      let (key, value) := splitValue text
      let (c, pending) ← readLong c pending key value
      read c pending rest
    | '-' :: letter :: _, _ => throw (readShort c pending letter)
    | _, .option o none => read c (.option o (some argument)) rest
    | _, _ =>
      let (c, pending) ← readFile c pending argument
      read c pending rest

def ofArguments (arguments : List String) : Except Stop CommandOptions :=
  read {} .nothing arguments

end CommandOptions
end AgentManifest
