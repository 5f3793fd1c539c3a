import FragmentImports.Document.Parser
import FragmentImports.Files.Discovery
import FragmentImports.Registry

/-!
Loading the documents of a run from files, in the order of their paths; the first file that cannot
be loaded ends it.
-/

namespace FragmentImports

inductive DocumentFault where
  | unreadable (fault : FileFault)
  | notParsed (path : String) (error : Document.SyntaxError)
  deriving DecidableEq, Repr

namespace DocumentFault

def notice : DocumentFault → String
  | unreadable _ => ""
  | notParsed path error => "Error parsing " ++ path ++ ": " ++ error.report ++ "\n"

end DocumentFault

def documentExtensions : List String := [".graphql", ".gql"]

def loadDocument (file : FoundFile) : Except DocumentFault SourceDocument := do
  let text ← (FileTree.decode file.content).mapError .unreadable
  let document ← (Document.parse text).mapError (.notParsed file.path)
  return ⟨file.location, document⟩

def FileTree.loadDocuments (tree : FileTree) (text : String) :
    Except DocumentFault (List SourceDocument) := do
  let files ← (tree.discover documentExtensions text).mapError .unreadable
  files.mapM loadDocument

end FragmentImports
