import BucketVolume.Settings.File
import BucketVolume.Settings.Variable

/-!
# BucketVolume.Settings — what a process is set up with

Settings come from the defaults, then the settings file, then the environment, each over the one
before. A setting that is no text is refused, and a driver name that is blank does not pass
`Settings.validate`. Without a cluster id of its own a process takes the one of its surroundings.
-/

namespace BucketVolume

/-- The settings of a process. -/
structure Settings where
  driverName : String := "ibm/ibmc-s3fs"
  clusterId : Option String := none
deriving DecidableEq, Repr

namespace Settings

/-- Why there are no usable settings. -/
inductive Problem where
  | missingDriverName
  | wrongTypeInEnvironment (key found : String)
  | wrongTypeInFile (key found : String)
  | unreadableFile
deriving DecidableEq, Repr

/-- The two kinds of problems. -/
inductive ProblemKind where
  | missingField
  | parse
deriving DecidableEq, Repr

def Problem.kind : Problem → ProblemKind
  | .missingDriverName => .missingField
  | _ => .parse

/-- The wording of the problem. -/
def Problem.message : Problem → String
  | .missingDriverName =>
    "missing configuration field: missing mount driver name: " ++
      "set S3FS_PROVISIONER_DRIVER_NAME or add driver_name to s3fs-provisioner.toml"
  | .wrongTypeInEnvironment key found =>
    "configuration parsing failed: Failed to merge CLI with configuration: invalid type: found " ++
      found ++ ", expected a string for key \"" ++ key ++ "\" in `" ++ variableStart ++
      "` environment variable(s)"
  | .wrongTypeInFile key found =>
    "configuration parsing failed: Failed to merge CLI with configuration: invalid type: found " ++
      found ++ ", expected a string for key \"default." ++ key ++ "\" in TOML source string"
  | .unreadableFile => "configuration parsing failed: Failed to load configuration file"

/-- The name of a setting as messages about the environment show it. -/
private def capitals (key : String) : String :=
  String.ofList (key.toList.map Char.toUpper)

/-- The text of a setting, from the environment or else from the file. -/
def setting? (env : Environment) (file : List FileEntry) (key : String) :
    Except Problem (Option String) :=
  match fromEnvironment? env key with
  | some (.text s) => .ok (some s)
  | some other => .error (.wrongTypeInEnvironment (capitals key) other.label)
  | none =>
    match fromFile? file key with
    | none => .ok none
    | some (.text s) => .ok (some s)
    | some other => .error (.wrongTypeInFile key other.label)

/-- The settings of an environment and, if there is one, a settings file. -/
def load (env : Environment) (file : Option String) : Except Problem Settings := do
  let entries ← match file with
    | none => .ok []
    | some text =>
      match readFile? text with
      | some entries => .ok entries
      | none => .error .unreadableFile
  let clusterId ← setting? env entries "cluster_id"
  let driverName ← setting? env entries "driver_name"
  let defaults : Settings := {}
  return { driverName := driverName.getD defaults.driverName, clusterId }

/-- Refuses a driver name of nothing but blanks. -/
def validate (settings : Settings) : Except Problem Unit :=
  if settings.driverName.toList.all Text.isBlank then .error .missingDriverName else .ok ()

/-- The cluster id that events carry. -/
def effectiveClusterId (settings : Settings) (env : Environment) : String :=
  settings.clusterId.getD ((env.lookup "CLUSTER_ID").getD "")

end Settings

end BucketVolume
