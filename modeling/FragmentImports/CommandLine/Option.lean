import FragmentImports.CommandLine.Similar
import FragmentImports.Text.Quoted

/-!
Options on a command line: long ones with a value behind them or behind an equals sign, and letters
that may share one dash. What is no option is left over; two dashes end the options.
-/

namespace FragmentImports.CommandLine

inductive PathRule where
  | existing
  | existingFile
  | existingDirectory
  /-- A directory, or nothing yet. -/
  | directory
  deriving DecidableEq, Repr

structure OptionRule where
  name : String
  letter? : Option Char := none
  takesValue : Bool := true
  required : Bool := false
  path? : Option PathRule := none
  deriving DecidableEq, Repr

structure GivenOption where
  name : String
  value : String := ""
  deriving DecidableEq, Repr

inductive Misuse where
  | unknownOption (option : String) (similar : List String)
  | valueMissing (option : String)
  | valueUnwanted (option : String)
  | optionMissing (rule : OptionRule)
  | badPath (rule : OptionRule) (fault : String)
  | extraArguments (arguments : List String)
  | badHeader (message : String)
  | unknownCommand (name : String) (similar : List String)
  | commandMissing
  deriving DecidableEq, Repr

def OptionRule.spellings (rule : OptionRule) : String :=
  let letter := rule.letter?.map fun c => "-" ++ c.toString
  " / ".intercalate ((rule.name :: letter.toList).map fun spelling => "'" ++ spelling ++ "'")

namespace Misuse

def question (names : List String) : String :=
  match names.map quoted with
  | [] => ""
  | [name] => " Did you mean " ++ name ++ "?"
  | names => " (Did you mean one of: " ++ ", ".intercalate names ++ "?)"

def message : Misuse → String
  | unknownOption option similar =>
      "No such option " ++ quoted option ++ "." ++ question similar
  | valueMissing option => "Option " ++ quoted option ++ " requires an argument."
  | valueUnwanted option => "Option " ++ quoted option ++ " does not take a value."
  | optionMissing rule => "Missing option " ++ rule.spellings ++ "."
  | badPath rule fault => "Invalid value for " ++ rule.spellings ++ ": " ++ fault
  | extraArguments arguments =>
      (if arguments.length = 1 then "Got unexpected extra argument ("
       else "Got unexpected extra arguments (") ++ " ".intercalate arguments ++ ")"
  | badHeader message => message
  | unknownCommand name similar =>
      "No such command " ++ quoted name ++ "." ++ question similar
  | commandMissing => "Missing command."

def tellsUsage : Misuse → Bool
  | valueMissing _ | valueUnwanted _ => false
  | _ => true

end Misuse

structure Taken (before : List String) where
  options : List GivenOption
  rest : List String
  rest_le : rest.length ≤ before.length := by simp

def takeValue (rule : OptionRule) (spelling : String) (attached? : Option String)
    (rest : List String) : Except Misuse (Taken rest) :=
  match attached?, rest with
  | some value, rest => .ok { options := [⟨rule.name, value⟩], rest := rest }
  | none, value :: more => .ok { options := [⟨rule.name, value⟩], rest := more }
  | none, [] => .error (.valueMissing spelling)

def takeLong? (rules : List OptionRule) (name : String) (attached? : Option String)
    (rest : List String) : Option (Except Misuse (Taken rest)) :=
  (rules.find? fun rule => rule.name = name).map fun rule =>
    if rule.takesValue then takeValue rule name attached? rest
    else if attached?.isSome then .error (.valueUnwanted name)
    else .ok { options := [⟨name, ""⟩], rest := rest }

/-- Letters behind one dash: switches, and at last an option with a value, which may follow its
letter directly. -/
def takeLetters (rules : List OptionRule) : List Char → (rest : List String) →
    Except Misuse (Taken rest)
  | [], rest => .ok { options := [], rest := rest }
  | letter :: more, rest =>
      let spelling := "-" ++ letter.toString
      match rules.find? fun rule => rule.letter? = some letter with
      | none => .error (.unknownOption spelling [])
      | some rule =>
          if rule.takesValue then
            takeValue rule spelling (if more = [] then none else some (String.ofList more)) rest
          else do
            let taken ← takeLetters rules more rest
            return { taken with options := ⟨rule.name, ""⟩ :: taken.options }

def takeOption (rules : List OptionRule) (argument : String) (rest : List String) :
    Except Misuse (Taken rest) :=
  let letters := argument.toList
  let name := String.ofList (letters.takeWhile (· ≠ '='))
  let attached? := if letters.contains '=' then
      some (String.ofList ((letters.dropWhile (· ≠ '=')).drop 1))
    else none
  match takeLong? rules name attached? rest with
  | some taken => taken
  | none =>
      if ['-', '-'].isPrefixOf letters then
        .error (.unknownOption name (Similar.names (rules.map OptionRule.name) name))
      else takeLetters rules (letters.drop 1) rest

def looksLikeOption (argument : String) : Bool :=
  argument.toList.head? = some '-' && 1 < argument.length

/-- The options of a command line and the arguments left over. Where options may not stand between
arguments, the first argument ends them. -/
def takeOptions (rules : List OptionRule) (mixed : Bool) :
    List String → Except Misuse (List GivenOption × List String)
  | [] => .ok ([], [])
  | argument :: rest =>
      if argument = "--" then .ok ([], rest)
      else if looksLikeOption argument then do
        let taken ← takeOption rules argument rest
        let (options, left) ← takeOptions rules mixed taken.rest
        return (taken.options ++ options, left)
      else if mixed then do
        let (options, left) ← takeOptions rules mixed rest
        return (options, argument :: left)
      else .ok ([], argument :: rest)
termination_by arguments => arguments.length
decreasing_by
  · have := taken.rest_le
    simp only [List.length_cons]
    omega
  · simp

/-- The rules in the order in which they are checked: given options first, as they were given. -/
def checkOrder (rules : List OptionRule) (given : List GivenOption) : List OptionRule :=
  let isGiven (rule : OptionRule) : Bool := given.any fun option => option.name = rule.name
  let place (rule : OptionRule) : Nat := given.findIdx fun option => option.name = rule.name
  (rules.filter isGiven).mergeSort (fun a b => place a ≤ place b)
    ++ rules.filter fun rule => !isGiven rule

def valueOf? (given : List GivenOption) (name : String) : Option String :=
  (given.reverse.find? fun option => option.name = name).map GivenOption.value

end FragmentImports.CommandLine
