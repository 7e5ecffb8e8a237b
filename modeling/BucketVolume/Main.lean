import BucketVolume.CommandLine.Commands

/-!
# BucketVolume.Main — the program

Reads arguments, environment, files and random bytes, runs the command, and prints its answer on the
standard output or its problem on the standard error.
-/

namespace BucketVolume.CommandLine

/-- The problem behind a failed read. -/
def FileProblem.ofError : IO.Error → FileProblem
  | .noFileOrDirectory .. => .notFound
  | .inappropriateType _ 20 _ => .notDirectory
  | .inappropriateType _ 21 _ => .isDirectory
  | error => .other (toString error)

/-- Reads a file of the file system. -/
def readSystemFile (path : String) : IO (Except FileProblem (List UInt8)) :=
  match FilePath.parse? path with
  | none => return .error .noFileName
  | some file => do
    let start := if file.absolute then "/" else ""
    let joined := start ++ String.intercalate "/" (file.directories ++ [file.fileName])
    try
      return .ok (← IO.FS.readBinFile joined).toList
    catch error => return .error (.ofError error)

/-- The variables of a process, as its system lists them. -/
def parseEnvironment (bytes : List UInt8) : Environment :=
  ((Text.textOf bytes).splitOn "\x00").filterMap fun entry =>
    match entry.toList.span (· != '=') with
    | (name, _ :: value) => some (String.ofList name, String.ofList value)
    | (_, []) => none

/-- The environment of this process. -/
def readEnvironment : IO Environment := do
  match ← readSystemFile "/proc/self/environ" with
  | .ok bytes => return parseEnvironment bytes
  | .error _ => return []

/-- The settings file of the working directory, if there is one that is text. -/
def readSettingsFile : IO (Option String) := do
  match (← readSystemFile ".s3fs_provisioner.toml").bind textOfContent with
  | .ok text => return some text
  | .error _ => return none

/-- The files that a command names, read beforehand. -/
def readNamedFiles (paths : List String) :
    IO (String → Except FileProblem (List UInt8)) := do
  let contents ← paths.mapM fun path => return (path, ← readSystemFile path)
  return fun path => (contents.lookup path).getD (.error .notFound)

/-- The paths that a command names. -/
def Command.paths : Command → List String
  | .plan claim cls .. => [claim, cls]
  | .inspect volume => [volume]

/-- Runs a command line and gives the exit code. -/
def execute (args : List String) : IO UInt32 := do
  match Invocation.ofArgs args with
  | .help text =>
    IO.print text
    return 0
  | .usage problem =>
    IO.eprintln (problem.message ++ "\n\nFor more information, try '--help'.")
    return 2
  | .nothing =>
    IO.eprint (programHelp commands)
    return 2
  | .run command =>
    let surroundings : Surroundings := {
      env := ← readEnvironment
      settingsFile := ← readSettingsFile
      contentOf := ← readNamedFiles command.paths
      token := randomToken (← IO.getRandomBytes 16).toList }
    match command.answer surroundings with
    | .ok json =>
      IO.println json.pretty
      return 0
    | .error failure =>
      IO.eprintln failure.message
      return 1

end BucketVolume.CommandLine

def main (args : List String) : IO UInt32 :=
  BucketVolume.CommandLine.execute args
