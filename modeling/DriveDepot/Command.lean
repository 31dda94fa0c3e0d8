import DriveDepot.Category
import DriveDepot.LocalPath
import DriveDepot.NamePattern

namespace DriveDepot

/-- A file as it is named on the command line: any name may be given for a category. Of an argument
nothing may be left. -/
structure FileArgument where
  category : Option Category
  name : Option String
  deriving DecidableEq, Repr

inductive Command
  | auth
  | init (createRoot : Bool)
  | test
  | list (category : Category)
  | upload (source : LocalPath) (file : FileArgument)
  | download (file : FileArgument) (target : Option LocalPath)
  | move (source target : FileArgument)
  | remove (file : FileArgument)
  deriving DecidableEq, Repr

namespace Command

def word : Command → String
  | .auth => "auth"
  | .init _ => "init"
  | .test => "test"
  | .list _ => "ls"
  | .upload .. => "upload"
  | .download .. => "download"
  | .move .. => "mv"
  | .remove _ => "rm"

/-- Negative numbers, with or without a point. -/
def negativeNumbers : List NamePattern :=
  [[.oneOf ["-"], .run .decimalDigit], [.oneOf ["-."], .run .decimalDigit],
   [.oneOf ["-"], .run .decimalDigit, .oneOf ["."], .run .decimalDigit]]

/-- The text without a line feed at its end. -/
def withoutLineFeed (cs : List Char) : List Char :=
  if cs.getLast? = some '\n' then cs.dropLast else cs

def isNegativeNumber (argument : String) : Bool :=
  negativeNumbers.any (·.matchesAll (withoutLineFeed argument.toList))

/-- Whether an argument abbreviates one of the long options. What follows `=` is the value. -/
def abbreviates (options : List String) (argument : String) : Bool :=
  let given := argument.toList.takeWhile (· ≠ '=')
  ['-', '-'].isPrefixOf given && options.any fun option => given.isPrefixOf option.toList

/-- Whether an argument stands for an option, known or not: it begins with a hyphen and is neither
a number nor has a blank. An abbreviated option, and `-h` with anything after it, is one in any
case. -/
def isOption (options : List String) (argument : String) : Bool :=
  match argument.toList with
  | [] | ['-'] => false
  | '-' :: rest =>
    abbreviates options argument || rest.head? = some 'h' ||
      !(isNegativeNumber argument || rest.contains ' ')
  | _ => false

/-- What is left of an argument after the separator: nothing of a second separator. -/
def afterSeparator (argument : String) : Option String :=
  if argument = "--" then none else some argument

/-- The arguments up to the separator `--`, none of which stands for an option, and those after. -/
def aroundSeparator (options : List String) :
    (arguments : List String) → Option (List (Option String))
  | [] => some []
  | "--" :: rest => some (rest.map afterSeparator)
  | argument :: rest =>
    if isOption options argument then none
    else (aroundSeparator options rest).map (some argument :: ·)

/-- The positional arguments, if no argument stands for an option. After `--` every argument is
positional. One `--` is taken out of each place, and that is the separator itself in the first
place, if the separator comes before it. -/
def positionals (options : List String) : (arguments : List String) → Option (List (Option String))
  | "--" :: first :: rest => some (some first :: rest.map afterSeparator)
  | arguments => aroundSeparator options arguments

def helpOption : String := "--help"
def createOption : String := "--create"

/-- Whether an argument asks to create the root folder; the option may be cut short. -/
def isCreateOption (argument : String) : Bool :=
  ['-', '-', 'c'].isPrefixOf argument.toList && argument.toList.isPrefixOf createOption.toList

/-- A category that is given has to be one. -/
def category? : Option String → Option (Option Category)
  | none => some none
  | some word => (Category.ofWord? word).map some

def file? (category name : Option String) : Option FileArgument := do
  return ⟨← category? category, name⟩

/-- A command of which the arguments after its word are all positional. -/
def ofPositionals? : (command : String) → List (Option String) → Option Command
  | "ls", [some category] => return .list (← Category.ofWord? category)
  | "upload", [some source, category, name] =>
    return .upload (.ofString source) (← file? category name)
  | "download", [category, name, target] =>
    return .download (← file? category name) (target.map .ofString)
  | "mv", [sourceCategory, sourceName, targetCategory, targetName] =>
    return .move (← file? sourceCategory sourceName) (← file? targetCategory targetName)
  | "rm", [category, name] => return .remove (← file? category name)
  | _, _ => none

/-- The command that the arguments of the program give, if they give one. -/
def ofArguments? : List String → Option Command
  | ["auth"] => some .auth
  | ["test"] => some .test
  | "init" :: arguments =>
    if arguments.all isCreateOption then some (.init !arguments.isEmpty) else none
  | command :: arguments => do ofPositionals? command (← positionals [helpOption] arguments)
  | [] => none

end Command

end DriveDepot
