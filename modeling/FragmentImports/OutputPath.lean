import FragmentImports.Path

/-!
Where the file generated for a document goes: next to the document, under names that can be
imported.
-/

namespace FragmentImports

def moduleSafeChar (c : Char) : Char :=
  if c = '.' ∨ c = '-' ∨ c = ' ' then '_' else c

def moduleSafe (name : String) : String := name.map moduleSafeChar

/-- A path component as a module name; the components that move through the tree stay. -/
def moduleSafePart (part : String) : String :=
  if part = "." ∨ part = ".." ∨ part = "/" then part else moduleSafe part

structure OutputLayout where
  extension : String := "_generated.py"
  /-- Directory of the generated files, relative to the directory of their document. -/
  folder : String := ""
  deriving DecidableEq, Repr

namespace OutputLayout

def directory (layout : OutputLayout) (location : Path) : Path :=
  let beside := location.parent
  let inside := if layout.folder = "" then beside else beside.join (.ofString layout.folder)
  { inside with parts := inside.parts.map moduleSafePart }

def fileName (layout : OutputLayout) (location : Path) : String :=
  moduleSafe location.stem ++ layout.extension

def filePath (layout : OutputLayout) (location : String) : String :=
  let source := Path.ofString location
  ((layout.directory source).join (.ofString (layout.fileName source))).normalize.render

end OutputLayout

end FragmentImports
