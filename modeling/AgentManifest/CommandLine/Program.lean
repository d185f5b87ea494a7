import AgentManifest.Batch.Run
import AgentManifest.CommandLine.Options
import AgentManifest.Documents
import AgentManifest.Settings.ConfigFile
import AgentManifest.Settings.Logging

/-! The program: settings are put together from the arguments, the environment and the configuration
file, the documents are worked on, and failures and numbers are reported. -/

namespace AgentManifest.Program

structure Exit where
  /-- Zero if every document succeeded, one if not, two if the work could not begin. -/
  code : Nat
  messages : String
  deriving DecidableEq, Repr

def name : String := "cortex-intake"

def version : String := "0.1.0"

def usage : String := s!"Usage: {name} [OPTIONS] [FILES]...\n"

def environmentKeys : List String := [
  "HOME", "CORTEX_INTAKE_HOME", "CORTEX_INTAKE_MISSING_RESOURCES", "CORTEX_INTAKE_CREATE_MODE",
  "CORTEX_INTAKE_MAX_CONCURRENCY", "CORTEX_INTAKE_BASE_URL", "TRACING_FILTER", "TRACING_JSON",
  "TRACING_COMPACT", "TRACING_PRETTY", "RUST_LOG", "LOG_TO_FILE", "LOG_DIR"]

def refusal (problem : String) : Exit := ⟨2, s!"error: {problem}\n"⟩

variable {m : Type → Type} [Monad m] [MonadWorkspace m]

def flags (options : CommandOptions) : Flags where
  missingResources := options.missingResources
  createMode := options.createMode
  baseUrl := options.baseUrl
  outputDirectory := options.output
  maxConcurrency := options.maxConcurrency

def documents (options : CommandOptions) : m (Except ErrorChain (List String)) := do
  match options.directory with
  | none => return .ok options.files
  | some directory => return (← Documents.find directory).map (options.files ++ ·)

def sink (options : CommandOptions) (settings : Settings) : Option (Sink (StateT Claims m)) :=
  if options.check then none
  else
    let form := match options.kind.getD .createCall with
      | .createCall => OutputForm.createCall settings.baseUrl
      | .statement => .statement
    let destination := match settings.outputDirectory with
      | some root => Destination.directory root
      | none => .output
    some (.writing form settings.createMode destination)

def work (options : CommandOptions) (settings : Settings) (runId : String) (files : List String) :
    m Exit := do
  match Builder.ofStore AgentSchema.store settings.missingResources with
  | .error e => return refusal s!"preparing pipeline: {e.text}"
  | .ok builder =>
    let context : BatchContext (StateT Claims m) := {
      builder
      overrides := ⟨options.database, options.schema, options.name⟩
      sink := sink options settings
      limit := settings.maxConcurrency }
    let report ← (context.run files).run' []
    return ⟨if report.allSucceeded then 0 else 1, report.failures ++ report.summary runId⟩

def process (options : CommandOptions) (env : Environment) (config : Option UserConfig)
    (runId : String) : m Exit := do
  match Settings.resolve (flags options) env (config.bind (·.intake)) with
  | .error e => return refusal (": ".intercalate e.chain)
  | .ok settings =>
    match ← documents options with
    | .error e => return refusal e.text
    | .ok [] => return refusal "no input documents: pass FILES or --dir"
    | .ok files => work options settings runId files

def prepareLog (home : String) (settings : LogSettings) : m Unit := do
  if settings.toFile then
    let directory := settings.directory.getD (FilePath.join home "logs")
    match ← MonadWorkspace.createDirectories directory with
    | .ok () => return
    | .error e =>
      MonadWorkspace.log [.warning s!"failed to create log dir {directory}: {e.text}"]

/-- Does what a call asks for. A configuration that cannot be read is passed over. -/
def call (options : CommandOptions) (env : Environment) (runId : String) : m Exit := do
  let home := env.programHome
  let loaded ← UserConfig.load home
  let config := match loaded with
    | .ok config => config
    | .error _ => none
  match LogSettings.resolve env (config.bind (·.logging)) with
  | .error e => return ⟨101, s!"{e.text}\n"⟩
  | .ok settings =>
    prepareLog home settings
    if let .error e := loaded then
      MonadWorkspace.log [.warning s!"ignoring user config in {home}: {e.text}"]
    process options env config runId

def run (arguments : List String) (env : Environment) (runId : String) : m Exit := do
  match CommandOptions.ofArguments arguments with
  | .ok options => call options env runId
  | .error .version =>
    MonadWorkspace.print s!"{name} {version}\n"
    return ⟨0, ""⟩
  | .error .help =>
    MonadWorkspace.print usage
    return ⟨0, ""⟩
  | .error (.usage e) => return refusal e.text

end AgentManifest.Program
