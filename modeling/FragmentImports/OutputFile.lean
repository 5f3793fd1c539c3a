import FragmentImports.ImportPlan

/-!
The files that a run generates: one next to every document with operations or fragments.
-/

namespace FragmentImports

structure OutputFile where
  path : String
  source : SourceDocument
  plan : ImportPlan
  fragmentImports : List String
  baseTypesImport? : Option String
  deriving DecidableEq, Repr

namespace OutputFile

def importStatements (file : OutputFile) : List String :=
  file.baseTypesImport?.toList ++ file.fragmentImports

end OutputFile

/-- What the files of a run are planned from. -/
structure Generation where
  settings : Settings
  registry : Registry
  documents : List SourceDocument
  context : ImportContext

namespace Generation

def prepare (schema : Schema) (settings : Settings) (documents : List SourceDocument)
    (context : ImportContext) : Except Registry.ScanError Generation := do
  return ⟨settings, ← Registry.build schema settings documents, documents, context⟩

def outputFile (generation : Generation) (source : SourceDocument) : OutputFile :=
  let path := generation.settings.layout.filePath source.location
  let plan := generation.registry.resolve (.document source.document)
  let baseTypes := generation.settings.baseTypesPath?.filter (· ≠ "")
  { path := path
    source := source
    plan := plan
    fragmentImports := plan.statements generation.context path
    baseTypesImport? := baseTypes.map (generation.context.baseTypesStatement path) }

def needsOutput (source : SourceDocument) : Bool :=
  source.document.hasOperations || !source.document.fragments.isEmpty

/-- Every file to generate, in document order. -/
def outputFiles (generation : Generation) : List OutputFile :=
  (generation.documents.filter needsOutput).map generation.outputFile

end Generation

end FragmentImports
