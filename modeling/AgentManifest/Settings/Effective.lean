import AgentManifest.Settings.Config
import AgentManifest.Settings.Home

/-! The settings in effect. Each comes from the first layer that gives it: a flag, a variable that
holds more than blanks, the configuration file, or the default. -/

namespace AgentManifest

structure Flags where
  missingResources : Option MissingResourcePolicy := none
  createMode : Option CreateMode := none
  baseUrl : Option String := none
  outputDirectory : Option String := none
  maxConcurrency : Option Nat := none
  deriving DecidableEq, Repr

structure Settings where
  missingResources : MissingResourcePolicy
  createMode : CreateMode
  baseUrl : Option String
  outputDirectory : Option String
  maxConcurrency : Nat
  deriving DecidableEq, Repr

inductive CountFault where
  | empty
  | invalidDigit
  | tooLarge
  deriving DecidableEq, Repr

namespace CountFault

def text : CountFault → String
  | .empty => "cannot parse integer from empty string"
  | .invalidDigit => "invalid digit found in string"
  | .tooLarge => "number too large to fit in target type"

end CountFault

def readCount (sofar : Nat) : List Char → Except CountFault Nat
  | [] => .ok sofar
  | c :: rest =>
    if c.isDigit then
      let n := sofar * 10 + (c.toNat - 48)
      if n < 0x10000000000000000 then readCount n rest else .error .tooLarge
    else .error .invalidDigit

def countOfText : List Char → Except CountFault Nat
  | [] => .error .empty
  | ['+'] => .error .invalidDigit
  | '+' :: digits => readCount 0 digits
  | digits => readCount 0 digits

inductive SettingsError where
  | missingResources (value : String) (e : MissingResourcePolicy.Unknown)
  | createMode (value : String) (e : CreateMode.Unknown)
  | maxConcurrency (value : String) (e : CountFault)
  | zeroConcurrency
  deriving DecidableEq, Repr

namespace SettingsError

def chain : SettingsError → List String
  | .missingResources value e => [s!"CORTEX_INTAKE_MISSING_RESOURCES={value}", e.text]
  | .createMode value e => [s!"CORTEX_INTAKE_CREATE_MODE={value}", e.message]
  | .maxConcurrency value e => [s!"CORTEX_INTAKE_MAX_CONCURRENCY={value}", e.text]
  | .zeroConcurrency => ["max_concurrency must be at least 1"]

end SettingsError

namespace Settings

def defaultConcurrency : Nat := 4

/-- A value from the first layer that gives one. The variable is only read if no flag is given. -/
def layered {α : Type} (flag : Option α) (given : Option String)
    (read : String → Except SettingsError α) (config : Option α) (absent : α) :
    Except SettingsError α :=
  match flag, given with
  | some a, _ => .ok a
  | none, some value => read value
  | none, none => .ok (config.getD absent)

def resolve (flags : Flags) (env : Environment) (config : Option IntakeConfig) :
    Except SettingsError Settings := do
  let missingResources ← layered flags.missingResources
    (env.filled? "CORTEX_INTAKE_MISSING_RESOURCES")
    (fun value => (MissingResourcePolicy.ofText value).mapError (.missingResources value))
    (config.bind (·.missingResources)) .strict
  let createMode ← layered flags.createMode (env.filled? "CORTEX_INTAKE_CREATE_MODE")
    (fun value => (CreateMode.ofText value).mapError (.createMode value))
    (config.bind (·.createMode)) .errorIfExists
  let maxConcurrency ← layered flags.maxConcurrency (env.filled? "CORTEX_INTAKE_MAX_CONCURRENCY")
    (fun value =>
      (countOfText (Text.trimBlanks value.toList)).mapError (.maxConcurrency value))
    (config.bind (·.maxConcurrency)) defaultConcurrency
  if maxConcurrency = 0 then throw .zeroConcurrency
  return {
    missingResources
    createMode
    baseUrl := flags.baseUrl.or ((env.filled? "CORTEX_INTAKE_BASE_URL").or
      (config.bind (·.baseUrl)))
    outputDirectory :=
      flags.outputDirectory.or ((config.bind (·.outputDirectory)).map env.expandHome)
    maxConcurrency }

end Settings
end AgentManifest
