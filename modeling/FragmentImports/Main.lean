import FragmentImports.CommandLine.Run

/-!
The program: reads what the arguments lead to, runs over it, prints, and writes the files that have
changed. It runs without what lies outside of the tree.
-/

namespace FragmentImports.Program

def placeOf (path : String) : List String := (Path.ofString path).parts

def pathOf (place : List String) : String := "/" ++ "/".intercalate place

def addPlace (tree : FileTree) (place : List String) : IO FileTree := do
  match ← (IO.FS.realPath (pathOf place)).toBaseIO with
  | .error _ => return tree
  | .ok here =>
      if ← here.isDir then return tree.put place .directory
      else return tree.put place (.file (← IO.FS.readBinFile here))

/-- Adds everything below a directory. Links to other directories are not followed. -/
partial def addBelow (tree : FileTree) (place : List String) : IO FileTree := do
  match ← (IO.FS.realPath (pathOf place)).toBaseIO with
  | .error _ => return tree
  | .ok here =>
      unless ← here.isDir do return tree
      let mut tree := tree
      for entry in ← here.readDir do
        let next := place ++ [entry.fileName]
        tree ← addPlace tree next
        if (← entry.path.symlinkMetadata).type != .symlink then tree ← addBelow tree next
      return tree

def addPath (tree : FileTree) (path : String) : IO FileTree := do
  let mut tree := tree
  let mut place := tree.startOf path.toList
  for part in (Path.ofString path).parts do
    place := if part = ".." then place.dropLast else place ++ [part]
    tree ← addPlace tree place
  addBelow tree place

def readFiles (arguments : List String) : IO FileTree := do
  let cwd := placeOf (← IO.currentDir).toString
  let mut tree : FileTree := ⟨.empty, cwd⟩
  for length in List.range (cwd.length + 1) do
    if length ≠ 0 then tree := tree.put (cwd.take length) .directory
  for path in CommandLine.namedPaths arguments do
    unless SchemaSource.isUrl path || path.toList.contains '\x00' do tree ← addPath tree path
  return tree

/-- Writes the files of a tree that an earlier one did not hold. -/
def writeFiles (earlier tree : FileTree) : IO Unit := do
  for (place, content) in tree.changesSince earlier do
    IO.FS.createDirAll (pathOf place.dropLast)
    IO.FS.writeBinFile (pathOf place) content

def run (arguments : List String) : IO UInt32 := do
  let tree ← readFiles arguments
  let outcome := CommandLine.run .isolated tree arguments
  IO.print outcome.output
  IO.eprint outcome.errors
  if let some breakdown := outcome.breakdown? then IO.eprintln breakdown.message
  writeFiles tree outcome.tree
  return outcome.exitCode.toUInt32

end FragmentImports.Program

def main (arguments : List String) : IO UInt32 := FragmentImports.Program.run arguments
