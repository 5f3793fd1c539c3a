import FragmentImports.Archive.Zip
import FragmentImports.Endpoint
import FragmentImports.Files.Discovery
import FragmentImports.Schema.Definition
import FragmentImports.Schema.Introspected

/-!
Loading the schema of a run: from an endpoint, an archive, a file or a directory.
-/

namespace FragmentImports

namespace SchemaSource

inductive Fault where
  | notFound (source : String)
  | noFiles
  | invalid (error : Schema.DefinitionError)
  | endpoint (error : Endpoint.EndpointError)
  | description (fault : Schema.DescriptionFault)
  | archive (fault : ArchiveFault)
  | file (fault : FileFault)
  deriving BEq, Repr

namespace Fault

/-- The message of a fault that is told to whoever runs the program; other faults break the run
off. -/
def message? : Fault → Option String
  | notFound source => some ("Schema source not found: " ++ source)
  | noFiles => some "No schema files found"
  | invalid error => some ("Invalid schema: " ++ error.report)
  | endpoint (.introspection error) => some error.message
  | endpoint _ => none
  | description fault => fault.message?
  | archive _ | file _ => none

end Fault

def extensions : List String := [".graphqls", ".graphql"]

/-- The schema of files whose texts are read as one, a line each after the other. -/
def ofFiles (files : List FoundFile) : Except Fault Schema := do
  if files = [] then throw .noFiles
  let texts ← files.mapM fun file => (FileTree.decode file.content).mapError .file
  (Schema.parse ("\n".intercalate texts)).mapError .invalid

def archiveFiles (untar : Untar) (tree : FileTree) (path : Path) :
    Except ArchiveFault (List FoundFile) := do
  return (← tree.extractArchive untar path).discoverBelow extensions "" []

def ofPath (untar : Untar) (tree : FileTree) (source : String) : Except Fault Schema := do
  let path := Path.ofString source
  match tree.find path.render with
  | .error .nameTooLong => throw (.file .nameTooLong)
  | .error _ => throw (.notFound source)
  | .ok _ => pure ()
  if tree.isArchive path then ofFiles (← (archiveFiles untar tree path).mapError .archive)
  else ofFiles (← (tree.discover extensions path.render).mapError .file)

def ofEndpoint (network : Endpoint.Network) (request : Endpoint.Request) : Except Fault Schema := do
  let data ← (Endpoint.fetch network request).mapError .endpoint
  (Schema.ofDescription data).mapError .description

def isUrl (source : String) : Bool :=
  ["http:", "https:"].any fun scheme => (scheme ++ "//").toList.isPrefixOf source.toList

def load (network : Endpoint.Network) (untar : Untar) (tree : FileTree) (source : String)
    (headers : List (String × String)) : Except Fault Schema :=
  if isUrl source then ofEndpoint network (.describe source headers) else ofPath untar tree source

end SchemaSource

end FragmentImports
