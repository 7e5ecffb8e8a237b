import BucketVolume.Settings.EnvValue

/-!
# BucketVolume.Settings.Variable — settings among the variables of an environment

A variable is a setting if its name, less the blanks around it, starts with `S3FS_PROVISIONER_` in
letters of either case. The rest of the name is a path: points, and pairs of underscores, stand
between its parts, and letters count in either case. A path of one part gives the setting of that
name a value; a longer one makes the setting of its first part a map. Of several variables for one
setting the last counts.
-/

namespace BucketVolume

/-- The environment of a process, in its own order. -/
abbrev Environment := List (String × String)

namespace Settings

/-- The name of every variable that is a setting starts with this. -/
def variableStart : String := "S3FS_PROVISIONER_"

/-- The text with small letters for the ASCII capitals. -/
private def small (cs : List Char) : List Char :=
  cs.map Char.toLower

/-- The text with a point for every pair of underscores, from left to right. -/
def pointPairs : List Char → List Char
  | '_' :: '_' :: rest => '.' :: pointPairs rest
  | c :: rest => c :: pointPairs rest
  | [] => []

/-- The path that a variable's name stands for; `none` if it is no setting or a part is empty. -/
def path? (name : String) : Option (List String) :=
  let cs := small (Text.trim name.toList)
  if (small variableStart.toList).isPrefixOf cs then
    let tail := Text.trim (pointPairs (cs.drop variableStart.length))
    let parts := (String.ofList tail).splitOn "."
    if parts.contains "" then none else some parts
  else none

/-- The value that a variable gives to a setting. -/
def valueFor? (key : String) (entry : String × String) : Option EnvValue :=
  match path? entry.1 with
  | none | some [] => none
  | some [part] => if part = key then some (EnvValue.parse entry.2) else none
  | some (part :: _ :: _) => if part = key then some .map else none

/-- The value that an environment gives to a setting. -/
def fromEnvironment? (env : Environment) (key : String) : Option EnvValue :=
  env.reverse.findSome? (valueFor? key)

end Settings

end BucketVolume
