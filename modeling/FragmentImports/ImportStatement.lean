import FragmentImports.OutputPath
import FragmentImports.Text.Basic

/-!
Import statements between generated files, with modules named relative to the importing file.
-/

namespace FragmentImports

def dropModuleExtension (part : String) : String :=
  if ".py".toList.isSuffixOf part.toList then
    String.ofList (part.toList.take (part.toList.length - 3))
  else part

def dottedName (parts : List String) : String :=
  let last := parts.getLast?.toList.map dropModuleExtension
  ".".intercalate ((parts.dropLast ++ last).map moduleSafePart)

/-- The module of `target` as seen from the file `source`: one dot for the directory of the source,
one more for every directory climbed, then the way down. -/
def relativeModule (cwd : List String) (source target : Path) : String :=
  let home := (source.normalize.parent).fromRoot cwd
  let way := Path.steps home (target.normalize.fromRoot cwd)
  let ups := way.takeWhile (· = "..")
  String.ofList (List.replicate (ups.length + 1) '.') ++ dottedName (way.drop ups.length)

structure ImportSource where
  path : String
  names : List String
  deriving DecidableEq, Repr

def renderImport (module : String) (names : List String) : String :=
  strip ("from " ++ module ++ " import " ++ ", ".intercalate names)

structure ImportContext where
  cwd : List String
  baseDirectory : String := ""
  deriving DecidableEq, Repr

namespace ImportContext

def locate (context : ImportContext) (path : String) : Path :=
  (Path.ofString context.baseDirectory).join (.ofString path)

def statement (context : ImportContext) (importer : String) (source : ImportSource) : String :=
  renderImport
    (relativeModule context.cwd (context.locate importer) (context.locate source.path))
    source.names

/-- The import of every base type: from a file of the output tree when the path looks like one,
else from an absolute module. -/
def baseTypesStatement (context : ImportContext) (importer baseTypes : String) : String :=
  let isFile := ".py".toList.isSuffixOf baseTypes.toList || baseTypes.toList.contains '/'
  let module :=
    if isFile then relativeModule context.cwd (context.locate importer) (context.locate baseTypes)
    else baseTypes
  renderImport module ["*"]

end ImportContext

end FragmentImports
