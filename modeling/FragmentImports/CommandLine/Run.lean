import FragmentImports.CommandLine.Arguments
import FragmentImports.CommandLine.Header
import FragmentImports.Files.Documents
import FragmentImports.Files.Output
import FragmentImports.Files.Settings
import FragmentImports.SchemaSource
import FragmentImports.Text.Terminal

/-!
Runs of the program over a tree of files: what is printed, what becomes of the files, and how the
run ends.
-/

namespace FragmentImports.CommandLine

/-- What a run has from outside: how endpoints answer, how tar archives are unpacked, how templates
are rendered, and which texts are modules. -/
structure Surroundings where
  network : Endpoint.Network
  untar : Untar
  engine : Template.Engine
  accepts : String → Bool

/-- No endpoint answers, no tar archive can be opened, and only templates without markup are
rendered. -/
def Surroundings.isolated : Surroundings where
  network _ := .noResponse "no connection is available"
  untar _ := .error "TarError"
  engine := Template.unmarked
  accepts := Preamble.isValid

/-- A fault that is not told as an error of the program but breaks the run off. -/
inductive Breakdown where
  | file (fault : FileFault)
  | schema (fault : SchemaSource.Fault)
  | template (fault : Template.Fault)
  deriving BEq, Repr

def Breakdown.message : Breakdown → String
  | file _ => "A file cannot be read or written."
  | schema _ => "The schema cannot be loaded."
  | template _ => "The template cannot be rendered."

inductive Stop where
  | told (message : String)
  | misused (misused : Misused)
  | broken (breakdown : Breakdown)
  deriving BEq, Repr

structure Console where
  output : String := ""
  tree : FileTree

abbrev Run := ExceptT Stop (StateM Console)

def print (text : String) : Run Unit :=
  modify fun console => { console with output := console.output ++ text }

def plain (text : String) : String := String.ofList (withoutControlSequences text.toList)

def say (line : String) : Run Unit := print (plain line ++ "\n")

def fileTree : Run FileTree := do return (← get).tree

def orStop {ε α : Type} (result : Except ε α) (stop : ε → Stop) : Run α :=
  match result with
  | .ok value => pure value
  | .error fault => throw (stop fault)

/-- The absolute path of a path text, whatever is there. -/
def absolutePath (cwd : List String) (text : String) : String :=
  "/" ++ "/".intercalate ((Path.ofString text).fromRoot cwd)

namespace Stop

def ofSettings : SettingsFault → Stop
  | .unreadable fault => broken (.file fault)
  | .invalid path issues => told (invalidSettings path issues)

def ofSchema (fault : SchemaSource.Fault) : Stop :=
  match fault.message? with
  | some message => told message
  | none => broken (.schema fault)

def ofDocument : DocumentFault → Stop
  | .unreadable fault => broken (.file fault)
  | .notParsed _ error => told error.report

def ofOutput : OutputFault → Stop
  | .preamble fault => told fault.message
  | .template fault => (fault.message?.map told).getD (broken (.template fault))
  | .file .nullCharacter => told "embedded null byte"
  | .file fault => broken (.file fault)

end Stop

def loadSettings (config? : Option String) : Run Settings := do
  match config? with
  | none => return {}
  | some path => orStop ((← fileTree).loadSettings path) .ofSettings

def loadSchema (command : Command) (outside : Surroundings) (options : Options) :
    Run Schema := do
  let given ← orStop (headers options.headers) fun bad =>
    .misused ⟨some command, .badHeader bad.message⟩
  orStop (SchemaSource.load outside.network outside.untar (← fileTree) options.schema
    given.entries) .ofSchema

def loadDocuments (path : String) : Run (List SourceDocument) := do
  match (← fileTree).loadDocuments path with
  | .ok documents => return documents
  | .error fault =>
      print fault.notice
      throw (.ofDocument fault)

/-- Loads everything that a command works on; generated paths are relative to `base`. -/
def loadGeneration (command : Command) (outside : Surroundings) (options : Options)
    (base : String) : Run Generation := do
  let cwd := (← fileTree).cwd
  let settings ← loadSettings options.config?
  if options.verbose then
    say ("Schema: " ++ options.schema)
    say ("Documents: " ++ absolutePath cwd options.documents)
  say "Loading schema..."
  let schema ← loadSchema command outside options
  say "Parsing documents..."
  let documents ← loadDocuments options.documents
  let generation ← orStop (Generation.prepare schema settings documents ⟨cwd, base⟩) fun error =>
    .told error.message
  if options.verbose then
    say ("  Documents: " ++ toString documents.length)
    say ("  Fragments: " ++ toString generation.registry.size)
  return generation

def registryLine (name : String) (entry : Registry.Entry) : String :=
  name ++ " on " ++ entry.onType ++ " -> " ++ entry.filePath ++ ": "
    ++ ", ".intercalate entry.importNames

def externalLine (fragment : ExternalFragment) : String :=
  "  fragment " ++ fragment.name ++ " on " ++ fragment.onType
    ++ " (depth " ++ toString fragment.depth ++ ")"

def planLines (file : OutputFile) : List String :=
  file.path :: file.plan.external.map externalLine
    ++ file.importStatements.map fun statement => "  " ++ statement

def runRegistry (outside : Surroundings) (options : Options) : Run Unit := do
  let generation ← loadGeneration .registry outside options ""
  for (name, entry) in generation.registry.entries do say (registryLine name entry)

def runPlan (outside : Surroundings) (options : Options) : Run Unit := do
  let generation ← loadGeneration .plan outside options options.output
  for file in generation.outputFiles do
    for line in planLines file do say line

/-- What the preambles of a run are written with. -/
def Surroundings.writer (outside : Surroundings) (options : Options) (cwd : List String) :
    PreambleWriter where
  engine := outside.engine
  accepts := outside.accepts
  templateDirectory? := options.templateDirectory?
  outputDirectory := absolutePath cwd options.output

def runGenerate (outside : Surroundings) (options : Options) : Run Unit := do
  let writer := outside.writer options (← fileTree).cwd
  let generation ← loadGeneration .generate outside options ""
  let files := generation.outputFiles
  say "Writing files..."
  let (tree, written) := writer.writeAll (← fileTree) files
  modify fun console => { console with tree := tree }
  let paths ← orStop written .ofOutput
  if options.verbose then
    for path in paths do say ("  " ++ path)
  say ("Done! Generated " ++ toString files.length ++ " files in " ++ writer.outputDirectory)

def runCommand (outside : Surroundings) (options : Options) : Command → Run Unit
  | .registry => runRegistry outside options
  | .plan => runPlan outside options
  | .generate => runGenerate outside options

def Refusal.stop : Refusal → Stop
  | .misused found => .misused found
  | .nullCharacter => .broken (.file .nullCharacter)

def follow (outside : Surroundings) (arguments : List String) : Run Unit := do
  match ← orStop (readArguments (← fileTree) arguments) Refusal.stop with
  | .help command? => say (usage command?)
  | .version => say versionText
  | .run command options => runCommand outside options command

structure Outcome where
  exitCode : Nat := 0
  output : String
  errors : String := ""
  breakdown? : Option Breakdown := none
  tree : FileTree

def outcome (result : Except Stop Unit) (console : Console) : Outcome :=
  match result with
  | .ok () => { output := console.output, tree := console.tree }
  | .error (.told message) =>
      { exitCode := 1, output := console.output, errors := "Error: " ++ plain message ++ "\n",
        tree := console.tree }
  | .error (.misused misused) =>
      { exitCode := 2, output := console.output, errors := plain misused.text,
        tree := console.tree }
  | .error (.broken breakdown) =>
      { exitCode := 1, output := console.output, breakdown? := some breakdown,
        tree := console.tree }

def run (outside : Surroundings) (tree : FileTree) (arguments : List String) : Outcome :=
  let (result, console) := (follow outside arguments).run.run { tree := tree }
  outcome result console

end FragmentImports.CommandLine
