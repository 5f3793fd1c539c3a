import FragmentImports.Distinct
import FragmentImports.Document.Definition
import FragmentImports.Schema
import FragmentImports.Settings

/-!
The registry of fragments: for every fragment of a run the file that exports it and the symbols it
exports there. The first definition of a name counts; a later one has to equal it.
-/

namespace FragmentImports

structure SourceDocument where
  location : String
  document : Document
  deriving DecidableEq, Repr

namespace Registry

structure Entry where
  filePath : String
  importNames : List String
  onType : String
  definition : Document.Fragment
  deriving DecidableEq, Repr

end Registry

abbrev Registry := OrderedMap String Registry.Entry

namespace Registry

inductive ScanError where
  | unknownType (fragment type : String)
  /-- Fragments of one name differ; every such name is reported. -/
  | conflicting (names : List String)
  deriving DecidableEq, Repr

namespace ScanError

def message : ScanError → String
  | unknownType fragment type =>
      "Fragment \"" ++ fragment ++ "\" is set on non-existing type \"" ++ type ++ "\"!"
  | conflicting names =>
      "Multiple fragments with the name(s) \"" ++ ", ".intercalate names ++ "\" were found."

end ScanError

structure Occurrence where
  location : String
  fragment : Document.Fragment
  deriving DecidableEq, Repr

def occurrences (documents : List SourceDocument) : List Occurrence :=
  documents.flatMap fun source => source.document.fragments.map fun fragment =>
    ⟨source.location, fragment⟩

def entryOf (schema : Schema) (settings : Settings) (occurrence : Occurrence)
    (type : SchemaType) : Entry :=
  let fragment := occurrence.fragment
  { filePath := settings.layout.filePath occurrence.location
    importNames := fragmentSymbols settings.naming settings.includesDocumentVariables fragment.name
      (schema.possibleTypesOf fragment.onType type)
    onType := fragment.onType
    definition := fragment }

/-- The entries so far, and the names whose definitions differ, in the order in which that shows. -/
structure Scan where
  entries : Registry := .empty
  conflicts : List String := []
  deriving DecidableEq

/-- Takes one more fragment into a scan; an unknown type ends it. Definitions are compared as trees,
which hold no places in the text. What is printed of a definition that was read tells its tree:
names and numbers stand in it as they were written, texts with the mark of a block, and every list
between marks of its own. So two definitions are printed alike exactly when they are equal. -/
def Scan.add (schema : Schema) (settings : Settings) (scan : Scan) (occurrence : Occurrence) :
    Except ScanError Scan :=
  let fragment := occurrence.fragment
  match schema.get? fragment.onType with
  | none => .error (.unknownType fragment.name fragment.onType)
  | some type => .ok <| match scan.entries.get? fragment.name with
      | none =>
          { scan with
            entries := scan.entries.insert fragment.name (entryOf schema settings occurrence type) }
      | some entry =>
          if entry.definition = fragment then scan
          else { scan with conflicts := addDistinct scan.conflicts fragment.name }

def Scan.finish (scan : Scan) : Except ScanError Registry :=
  if scan.conflicts = [] then .ok scan.entries else .error (.conflicting scan.conflicts)

/-- The registry of the documents, in the order in which their fragments are first defined. -/
def build (schema : Schema) (settings : Settings) (documents : List SourceDocument) :
    Except ScanError Registry := do
  let scan ← (occurrences documents).foldlM (Scan.add schema settings) {}
  scan.finish

end Registry

end FragmentImports
