import BucketVolume.CommandLine.Arguments

/-!
# BucketVolume.CommandLine.Help — help texts

A help text says what a command is for, how it is called, and what its options are, in columns as
wide as their longest entry needs.
-/

namespace BucketVolume.CommandLine

/-- The name under which the program is called. -/
def programName : String := "s3fs-provisioner"

/-- What the program is for. -/
def programAbout : String :=
  "Preview how s3fs object-storage volumes are provisioned and torn down"

/-- What asking for help is for. -/
def helpAbout : String :=
  "Print this message or the help of the given subcommand(s)"

/-- Rows of two columns, indented by two spaces and set two spaces apart. -/
def columns (rows : List (String × String)) : String :=
  let width := rows.foldl (fun width row => max width row.1.length) 0
  String.join (rows.map fun row =>
    "  " ++ row.1 ++ String.ofList (List.replicate (width - row.1.length) ' ') ++ "  " ++
      row.2 ++ "\n")

/-- The row of the help flags. -/
def helpRow : String × String := ("-h, --help", "Print help")

/-- The row of an option; the space in front stands where a short name would. -/
def OptionSpec.row (option : OptionSpec) : String × String :=
  let suffix := match option.fallback with
    | none => ""
    | some value => " [default: " ++ value ++ "]"
  ("    " ++ option.usage, option.help ++ suffix)

/-- How a command is called. -/
def CommandSpec.usage (command : CommandSpec) : String :=
  let free := if command.options.any (·.fallback.isSome) then " [OPTIONS]" else ""
  let required := command.options.filter (·.fallback.isNone)
  programName ++ " " ++ command.name ++ free ++
    String.join (required.map fun option => " " ++ option.usage)

/-- The help of a command. -/
def CommandSpec.help (command : CommandSpec) : String :=
  command.about ++ "\n\nUsage: " ++ command.usage ++ "\n\nOptions:\n" ++
    columns (command.options.map OptionSpec.row ++ [helpRow])

/-- The help of the program. -/
def programHelp (commands : List CommandSpec) : String :=
  programAbout ++ "\n\nUsage: " ++ programName ++ " <COMMAND>\n\nCommands:\n" ++
    columns (commands.map (fun command => (command.name, command.about)) ++
      [("help", helpAbout)]) ++
    "\nOptions:\n" ++ columns [helpRow]

/-- The help of asking for help. -/
def helpHelp : String :=
  helpAbout ++ "\n\nUsage: " ++ programName ++ " help [COMMAND]...\n\nArguments:\n" ++
    columns [("[COMMAND]...", "Print help for the subcommand(s)")]

end BucketVolume.CommandLine
