import AgentManifest.Agent.Tool

/-! Agent documents as records: where the agent lives, how it presents itself and behaves, and its
tools with their resources still apart. -/

namespace AgentManifest

structure Profile where
  displayName : Option String
  avatar : Option String
  color : Option String

structure ModelChoice where
  orchestration : String

structure SampleQuestion where
  question : String
  answer : Option String

structure Instructions where
  response : Option String
  orchestration : Option String
  system : Option String
  sampleQuestions : List SampleQuestion

structure Budget where
  seconds : Option Nat
  tokens : Option Nat

structure Orchestration where
  budget : Option Budget

structure CreateRequest where
  database : String
  schema : String
  name : String
  comment : Option String
  profile : Option Profile
  models : Option ModelChoice
  instructions : Option Instructions
  orchestration : Option Orchestration
  tools : List Tool
  resources : List ResourceEntry

namespace Profile

def shape : Shape :=
  .record "AgentProfile" [.option "display_name" .text, .option "avatar" .text,
    .option "color" .text]

def read : Reading Profile :=
  Reading.record shape fun given => do
    return {
      displayName := ← optionMember "display_name" Reading.text given
      avatar := ← optionMember "avatar" Reading.text given
      color := ← optionMember "color" Reading.text given }

end Profile

namespace ModelChoice

def shape : Shape := .record "ModelConfig" [.needed "orchestration" .text]

def read : Reading ModelChoice :=
  Reading.record shape fun given => do
    return ⟨← neededMember "orchestration" Reading.text given⟩

end ModelChoice

namespace SampleQuestion

def shape : Shape := .record "SampleQuestion" [.needed "question" .text, .option "answer" .text]

def read : Reading SampleQuestion :=
  Reading.record shape fun given => do
    return {
      question := ← neededMember "question" Reading.text given
      answer := ← optionMember "answer" Reading.text given }

end SampleQuestion

namespace Instructions

def shape : Shape :=
  .record "AgentInstructions" [.option "response" .text, .option "orchestration" .text,
    .option "system" .text, .optional "sample_questions" (.list SampleQuestion.shape)]

def read : Reading Instructions :=
  Reading.record shape fun given => do
    return {
      response := ← optionMember "response" Reading.text given
      orchestration := ← optionMember "orchestration" Reading.text given
      system := ← optionMember "system" Reading.text given
      sampleQuestions := ← listMember "sample_questions" SampleQuestion.read given }

end Instructions

namespace Budget

def shape : Shape := .record "Budget" [.option "seconds" (.natural 32), .option "tokens" (.natural 64)]

def read : Reading Budget :=
  Reading.record shape fun given => do
    return {
      seconds := ← optionMember "seconds" (Reading.natural 32) given
      tokens := ← optionMember "tokens" (Reading.natural 64) given }

end Budget

namespace Orchestration

def shape : Shape := .record "OrchestrationConfig" [.option "budget" Budget.shape]

def read : Reading Orchestration :=
  Reading.record shape fun given => do
    return ⟨← optionMember "budget" Budget.read given⟩

end Orchestration

namespace CreateRequest

def shape : Shape :=
  .record "CreateRequest" [
    .needed "database_name" .text,
    .needed "schema_name" .text,
    .needed "name" .text,
    .option "comment" .text,
    .option "profile" Profile.shape,
    .option "models" ModelChoice.shape,
    .option "instructions" Instructions.shape,
    .option "orchestration" Orchestration.shape,
    .optional "tools" (.list Tool.shape),
    .optional "tool_resources" (.list ResourceEntry.shape)]

def read : Reading CreateRequest :=
  Reading.record shape fun given => do
    return {
      database := ← neededMember "database_name" Reading.text given
      schema := ← neededMember "schema_name" Reading.text given
      name := ← neededMember "name" Reading.text given
      comment := ← optionMember "comment" Reading.text given
      profile := ← optionMember "profile" Profile.read given
      models := ← optionMember "models" ModelChoice.read given
      instructions := ← optionMember "instructions" Instructions.read given
      orchestration := ← optionMember "orchestration" Orchestration.read given
      tools := ← listMember "tools" Tool.read given
      resources := ← listMember "tool_resources" ResourceEntry.read given }

end CreateRequest
end AgentManifest
