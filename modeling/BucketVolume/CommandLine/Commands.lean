import BucketVolume.CommandLine.Files
import BucketVolume.CommandLine.Help
import BucketVolume.Plan.Json
import BucketVolume.Settings

/-!
# BucketVolume.CommandLine.Commands — the two commands

`plan` prints what provisioning would do for a claim and a storage class, `inspect` what teardown
would do to a volume. Neither talks to an object store. A command sees its environment, the settings
file, the files that it names, and one token for a bucket name.
-/

namespace BucketVolume.CommandLine

/-! ## Command lines -/

/-- `plan` and its options. -/
def planSpec : CommandSpec where
  name := "plan"
  about := "Resolve and validate a claim, then print the volume it would produce"
  options := [
    { name := "claim", valueName := "PATH"
      help := "Path to a JSON file holding the claim annotations" },
    { name := "class", valueName := "PATH"
      help := "Path to a JSON file holding the storage-class parameters" },
    { name := "namespace", valueName := "NAMESPACE", fallback := some "default"
      help := "Namespace of the claim and of its credential secret" },
    { name := "claim-name", valueName := "NAME", fallback := some "claim"
      help := "Name of the claim, used in log events and errors" },
    { name := "volume-name", valueName := "NAME", fallback := some "volume"
      help := "Name given to the planned volume" }]

/-- `inspect` and its option. -/
def inspectSpec : CommandSpec where
  name := "inspect"
  about := "Read a persisted volume and print what teardown would do"
  options := [
    { name := "volume", valueName := "PATH"
      help := "JSON document of a volume produced by provisioning" }]

/-- The commands of the program. -/
def commands : List CommandSpec := [planSpec, inspectSpec]

/-- A command with the values of its options. -/
inductive Command where
  | plan (claim cls namespaceName claimName volumeName : String)
  | inspect (volume : String)
deriving DecidableEq, Repr

/-- What a command line asks for. -/
inductive Invocation where
  | run (command : Command)
  | help (text : String)
  | usage (problem : UsageProblem)
  | nothing
deriving DecidableEq, Repr

namespace Invocation

/-- Reads the options of a command. -/
def ofOptions (spec : CommandSpec) (args : List String) (make : (String → String) → Command) :
    Invocation :=
  match spec.read args with
  | .ok values => .run (make values)
  | .error .help => .help spec.help
  | .error (.problem problem) => .usage problem

/-- Reads the words behind `help`. -/
def ofHelpWords : List String → Invocation
  | [] => .help (programHelp commands)
  | name :: rest =>
    let text := if name = "help" then some helpHelp
      else (commands.find? (·.name == name)).map CommandSpec.help
    match text, rest with
    | none, _ => .usage (.unrecognizedSubcommand name)
    | some text, [] => .help text
    | some _, next :: _ => .usage (.unrecognizedSubcommand next)

/-- Whether a word names something that can be asked for. -/
def isCommandName (word : String) : Bool :=
  word == "help" || commands.any (·.name == word)

/-- Reads a word that no command name may follow. -/
def ofPlainWord (word : String) : Invocation :=
  if isCommandName word then .usage (.unexpectedArgument word)
  else .usage (.unrecognizedSubcommand word)

/-- Reads a command line. -/
def ofArgs : List String → Invocation
  | [] => .nothing
  | word :: rest =>
    if word = planSpec.name then
      ofOptions planSpec rest fun value =>
        .plan (value "claim") (value "class") (value "namespace") (value "claim-name")
          (value "volume-name")
    else if word = inspectSpec.name then
      ofOptions inspectSpec rest fun value => .inspect (value "volume")
    else if word = "help" then ofHelpWords rest
    else match Word.ofString word, rest with
      | .escape, [] => .nothing
      | .escape, next :: _ => ofPlainWord next
      | .long "help" none, _ => .help (programHelp commands)
      | .long "help" (some value), _ => .usage (.unexpectedValue value "--help")
      | .long name _, _ => .usage (.unexpectedArgument ("--" ++ name))
      | .short 'h', _ => .help (programHelp commands)
      | .short letter, _ => .usage (.unexpectedArgument ("-" ++ String.singleton letter))
      | .plain text, _ => .usage (.unrecognizedSubcommand text)

end Invocation

/-! ## Running -/

/-- What a command sees. -/
structure Surroundings where
  env : Environment
  settingsFile : Option String
  contentOf : String → Except FileProblem (List UInt8)
  token : String

/-- Why a command ends without an answer. -/
inductive CommandFailure where
  | settings (problem : Settings.Problem)
  | read (path : String) (problem : FileProblem)
  | json (path : String) (problem : Json.ReadProblem)
  | workflow (failure : StageFailure)

/-- What stands before the wording of a JSON problem. -/
def jsonFailureStart (path : String) : String :=
  "invalid JSON in " ++ path ++ ": "

/-- The wording of the failure. -/
def CommandFailure.message : CommandFailure → String
  | .settings problem => "configuration error: " ++ problem.message
  | .read path problem => "cannot read " ++ path ++ ": " ++ problem.message path
  | .json path .malformed => jsonFailureStart path ++ "malformed text"
  | .json path (.data problem) => jsonFailureStart path ++ problem.message
  | .workflow failure => failure.message

/-- Reads a file as a value. -/
def readJsonFile {α : Type} (s : Surroundings) (ofJsonText : String → Except Json.ReadProblem α)
    (path : String) : Except CommandFailure α := do
  let text ← ((s.contentOf path).bind textOfContent).mapError (.read path)
  (ofJsonText text).mapError (.json path)

/-- Runs an activity that asks for no secret and no session, with one token. -/
def runOffline {α : Type} (token : String) (activity : Activity StageFailure α) :
    Except StageFailure α :=
  let host : Host := {
    secret := fun _ => .error "no secrets offline"
    backend := ({} : Switches).backend }
  (activity.perform host { tokens := { remaining := [token] } }).1

/-- The report that `plan` prints. -/
def planReport (s : Surroundings) (claim cls namespaceName claimName volumeName : String) :
    Except CommandFailure PlanReport := do
  let settings ← (Settings.load s.env s.settingsFile).mapError .settings
  settings.validate.mapError .settings
  let claimAnnotations ← readJsonFile s Annotations.ofJsonText claim
  let classParameters ← readJsonFile s Annotations.ofJsonText cls
  let request : ProvisionRequest := {
    volumeName, claimName, claimNamespace := namespaceName, claimAnnotations, classParameters }
  let plan ← (runOffline s.token (ProvisionPlan.prepare request)).mapError .workflow
  return plan.report request settings.driverName

/-- The report that `inspect` prints. -/
def teardownReport (s : Surroundings) (path : String) : Except CommandFailure TeardownReport := do
  let volume ← readJsonFile s PersistentVolume.ofJsonText path
  (runOffline s.token (TeardownReport.ofVolume volume)).mapError .workflow

/-- The JSON that a command prints. -/
def Command.answer (s : Surroundings) : Command → Except CommandFailure Json
  | .plan claim cls namespaceName claimName volumeName =>
    (planReport s claim cls namespaceName claimName volumeName).map PlanReport.toJson
  | .inspect volume => (teardownReport s volume).map TeardownReport.toJson

end BucketVolume.CommandLine
