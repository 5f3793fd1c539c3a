import FragmentImports.CommandLine.Option
import FragmentImports.Files.Tree

/-!
The commands of the program with their options, and what a command line asks for.
-/

namespace FragmentImports.CommandLine

inductive Command where
  | registry
  | plan
  | generate
  deriving DecidableEq, Repr

namespace Command

def all : List Command := [registry, plan, generate]

def name : Command → String
  | registry => "registry"
  | plan => "plan"
  | generate => "generate"

def ofName? (name : String) : Option Command := all.find? fun command => command.name = name

end Command

def programName : String := "main"

def versionText : String := programName ++ ", version 0.1.0"

namespace Rules

def schema : OptionRule := { name := "--schema", letter? := some 's', required := true }

def documents : OptionRule :=
  { name := "--documents", letter? := some 'd', required := true, path? := some .existing }

def config : OptionRule :=
  { name := "--config", letter? := some 'c', path? := some .existingFile }

def header : OptionRule := { name := "--header", letter? := some 'H' }

def verbose : OptionRule := { name := "--verbose", letter? := some 'v', takesValue := false }

def output : OptionRule := { name := "--output", letter? := some 'o' }

def outputDirectory : OptionRule :=
  { output with required := true, path? := some .directory }

def templateDirectory : OptionRule :=
  { name := "--template-dir", path? := some .existingDirectory }

def help : OptionRule := { name := "--help", takesValue := false }

def version : OptionRule := { name := "--version", takesValue := false }

def common : List OptionRule := [schema, documents, config, header, verbose]

end Rules

def Command.rules : Command → List OptionRule
  | .registry => Rules.common ++ [Rules.help]
  | .plan => Rules.common ++ [Rules.output, Rules.help]
  | .generate => Rules.common ++ [Rules.outputDirectory, Rules.templateDirectory, Rules.help]

def programRules : List OptionRule := [Rules.version, Rules.help]

def usage : Option Command → String
  | none => "Usage: " ++ programName ++ " [OPTIONS] COMMAND [ARGS]..."
  | some command => "Usage: " ++ programName ++ " " ++ command.name ++ " [OPTIONS]"

def helpHint (command? : Option Command) : String :=
  let call := programName ++ String.join (command?.toList.map fun command => " " ++ command.name)
  "Try '" ++ call ++ " --help' for help."

/-- A misused command line, as far as it was understood. -/
structure Misused where
  command? : Option Command
  misuse : Misuse
  deriving DecidableEq, Repr

def Misused.text (misused : Misused) : String :=
  let error := "Error: " ++ misused.misuse.message ++ "\n"
  if misused.misuse.tellsUsage then
    usage misused.command? ++ "\n" ++ helpHint misused.command? ++ "\n\n" ++ error
  else error

structure Options where
  schema : String
  documents : String
  config? : Option String := none
  headers : List String := []
  verbose : Bool := false
  output : String := ""
  templateDirectory? : Option String := none
  deriving DecidableEq, Repr

inductive Invocation where
  | help (command? : Option Command)
  | version
  | run (command : Command) (options : Options)
  deriving DecidableEq, Repr

/-- Why a command line is not followed: it is misused, or a path in it holds a NUL character. -/
inductive Refusal where
  | misused (misused : Misused)
  | nullCharacter
  deriving DecidableEq, Repr

namespace PathRule

def title : PathRule → String
  | existing => "Path"
  | existingFile => "File"
  | existingDirectory | directory => "Directory"

def fault? (rule : PathRule) (tree : FileTree) (path : String) : Option String :=
  let told (fault : String) : Option String := some (rule.title ++ " " ++ quoted path ++ fault)
  match rule, tree.find? path with
  | .directory, none => none
  | _, none => told " does not exist."
  | .existingDirectory, some (.file _) | .directory, some (.file _) => told " is a file."
  | .existingFile, some .directory => told " is a directory."
  | _, some _ => none

end PathRule

def OptionRule.check (rule : OptionRule) (tree : FileTree) (given : List GivenOption) :
    Except Refusal (Option Misuse) :=
  match valueOf? given rule.name with
  | none => .ok (if rule.required then some (.optionMissing rule) else none)
  | some value =>
      match rule.path? with
      | none => .ok none
      | some path =>
          if value.toList.contains '\x00' then .error .nullCharacter
          else .ok ((path.fault? tree value).map (.badPath rule))

def optionsOf (given : List GivenOption) : Options where
  schema := (valueOf? given Rules.schema.name).getD ""
  documents := (valueOf? given Rules.documents.name).getD ""
  config? := valueOf? given Rules.config.name
  headers := (given.filter fun option => option.name = Rules.header.name).map GivenOption.value
  verbose := (valueOf? given Rules.verbose.name).isSome
  output := (valueOf? given Rules.output.name).getD ""
  templateDirectory? := valueOf? given Rules.templateDirectory.name

def isGiven (given : List GivenOption) (rule : OptionRule) : Bool :=
  given.any fun option => option.name = rule.name

/-- Reads the arguments of a command; options are checked in the order in which they are given. -/
def readCommand (tree : FileTree) (command : Command) (arguments : List String) :
    Except Refusal Invocation := do
  let misused (misuse : Misuse) : Refusal := .misused ⟨some command, misuse⟩
  let (given, left) ← (takeOptions command.rules true arguments).mapError misused
  if isGiven given Rules.help then return .help (some command)
  for rule in checkOrder command.rules given do
    if let some misuse ← rule.check tree given then throw (misused misuse)
  if left ≠ [] then throw (misused (.extraArguments left))
  return .run command (optionsOf given)

def readProgramOptions (arguments : List String) :
    Except Refusal (Option Invocation × List String) := do
  let (given, left) ← (takeOptions programRules false arguments).mapError fun misuse =>
    Refusal.misused ⟨none, misuse⟩
  return (given.head?.map fun option =>
    if option.name = Rules.version.name then .version else .help none, left)

/-- Reads a command line. A name that is no command may still be an option. -/
def readArguments (tree : FileTree) (arguments : List String) : Except Refusal Invocation := do
  if arguments = [] then return .help none
  match ← readProgramOptions arguments with
  | (some invocation, _) => return invocation
  | (none, []) => throw (.misused ⟨none, .commandMissing⟩)
  | (none, name :: rest) =>
      match Command.ofName? name with
      | some command => readCommand tree command rest
      | none =>
          match ← readProgramOptions (name :: rest) with
          | (some invocation, _) => return invocation
          | (none, _) =>
              let similar := Similar.names (Command.all.map Command.name) name
              throw (.misused ⟨none, .unknownCommand name similar⟩)

def namedPaths (arguments : List String) : List String :=
  match readProgramOptions arguments with
  | .ok (none, name :: rest) =>
      match (Command.ofName? name).map fun command => takeOptions command.rules true rest with
      | some (.ok (given, _)) =>
          (given.filter fun option => option.name ≠ Rules.header.name).map GivenOption.value
      | _ => []
  | _ => []

end FragmentImports.CommandLine
