import BucketVolume.Text.Control

/-!
# BucketVolume.CommandLine.Arguments — reading the words of a command line

A command takes options with one value each, given as `--name value` or `--name=value`, and nothing
else but the flags for help. An option's value is only settled when the next known option or the end
comes, so an unknown word is reported before a missing or repeated value. A report quotes a word as
far as it shows.
-/

namespace BucketVolume.CommandLine

/-- An option with a value. -/
structure OptionSpec where
  name : String
  valueName : String
  help : String
  fallback : Option String := none

/-- The option as it is written with the name of its value. -/
def OptionSpec.usage (option : OptionSpec) : String :=
  "--" ++ option.name ++ " <" ++ option.valueName ++ ">"

/-- A command and its options. -/
structure CommandSpec where
  name : String
  about : String
  options : List OptionSpec

/-- Why the words are no command line. -/
inductive UsageProblem where
  | unexpectedArgument (word : String)
  | unexpectedValue (value flag : String)
  | unrecognizedSubcommand (word : String)
  | valueRequired (usage : String)
  | usedTwice (usage : String)
  | requiredMissing
deriving DecidableEq, Repr

/-- The wording of the problem. What does not show of a word is left out of it. -/
def UsageProblem.message : UsageProblem → String
  | .unexpectedArgument word => "error: unexpected argument '" ++ Text.shown word ++ "' found"
  | .unexpectedValue value flag =>
    "error: unexpected value '" ++ Text.shown value ++ "' for '" ++ flag ++
      "' found; no more were expected"
  | .unrecognizedSubcommand word => "error: unrecognized subcommand '" ++ Text.shown word ++ "'"
  | .valueRequired usage =>
    "error: a value is required for '" ++ usage ++ "' but none was supplied"
  | .usedTwice usage => "error: the argument '" ++ usage ++ "' cannot be used multiple times"
  | .requiredMissing => "error: the following required arguments were not provided:"

/-- A word, by its form. -/
inductive Word where
  | escape
  | long (name : String) (value : Option String)
  | short (letter : Char)
  | plain (text : String)
deriving DecidableEq, Repr

/-- The form of a word. A dash alone is plain. -/
def Word.ofString (s : String) : Word :=
  match s.toList with
  | ['-', '-'] => .escape
  | '-' :: '-' :: rest =>
    match rest.span (· != '=') with
    | (name, _ :: value) => .long (String.ofList name) (some (String.ofList value))
    | (name, []) => .long (String.ofList name) none
  | '-' :: letter :: _ => .short letter
  | _ => .plain s

/-- Why reading ends before the end: help is asked for, or there is a problem. -/
inductive Stop where
  | help
  | problem (problem : UsageProblem)
deriving DecidableEq, Repr

/-- What has been read of a command: the settled values, and the option that is not settled yet. -/
structure Reading where
  settled : List (String × String) := []
  pending : Option (OptionSpec × Option String) := none

namespace Reading

/-- Takes up the value of an option that must not have one yet. -/
def add (reading : Reading) (option : OptionSpec) (value : String) : Except Stop Reading :=
  if (reading.settled.lookup option.name).isSome then
    .error (.problem (.usedTwice option.usage))
  else .ok { reading with settled := reading.settled ++ [(option.name, value)] }

/-- Settles the pending option. -/
def settle (reading : Reading) : Except Stop Reading :=
  match reading.pending with
  | none => .ok reading
  | some (option, none) => .error (.problem (.valueRequired option.usage))
  | some (option, some value) => { reading with pending := none }.add option value

/-- Reads one word before any `--`. -/
def word (options : List OptionSpec) (reading : Reading) : Word → Except Stop Reading
  | .escape => .ok reading
  | .long name value =>
    match options.find? (·.name == name), value with
    | some option, some value => do
      (← reading.settle).add option value
    | some option, none => do
      return { (← reading.settle) with pending := some (option, none) }
    | none, value =>
      if name = "help" then
        match value with
        | some value => .error (.problem (.unexpectedValue value "--help"))
        | none => do
          let _ ← reading.settle
          throw .help
      else .error (.problem (.unexpectedArgument ("--" ++ name)))
  | .short letter =>
    if letter = 'h' then do
      let _ ← reading.settle
      throw .help
    else .error (.problem (.unexpectedArgument ("-" ++ String.singleton letter)))
  | .plain text =>
    match reading.pending with
    | some (option, none) => .ok { reading with pending := some (option, some text) }
    | _ => .error (.problem (.unexpectedArgument text))

/-- Reads words; behind `--` no word is an option. -/
def words (options : List OptionSpec) (reading : Reading) : List String → Except Stop Reading
  | [] => .ok reading
  | s :: rest =>
    match Word.ofString s, rest with
    | .escape, [] => .ok reading
    | .escape, next :: _ => .error (.problem (.unexpectedArgument next))
    | w, rest => do
      let reading ← reading.word options w
      words options reading rest

end Reading

/-- The values of a command's options, given or by default. -/
def CommandSpec.read (command : CommandSpec) (args : List String) :
    Except Stop (String → String) := do
  let reading ← Reading.words command.options {} args
  let reading ← reading.settle
  if command.options.any fun option =>
      option.fallback.isNone && (reading.settled.lookup option.name).isNone then
    throw (.problem .requiredMissing)
  return fun name =>
    match reading.settled.lookup name with
    | some value => value
    | none => ((command.options.find? (·.name == name)).bind (·.fallback)).getD ""

end BucketVolume.CommandLine
