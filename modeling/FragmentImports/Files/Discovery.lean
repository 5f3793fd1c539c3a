import FragmentImports.Files.Tree

/-!
Finding the files of a kind under a path: the file itself, or those at any depth below a directory,
sorted by their path texts.
-/

namespace FragmentImports

structure FoundFile where
  /-- The path text as far as it was given, with the components below it. -/
  path : String
  /-- The components below the directory that was searched, or the name of the file itself. -/
  location : String
  content : ByteArray

def hasExtension (extensions : List String) (text : String) : Bool :=
  extensions.any fun extension => extension.toList.isSuffixOf text.toList

def sortedByPath (files : List FoundFile) : List FoundFile :=
  files.mergeSort fun a b => !decide (b.path < a.path)

namespace FileTree

def discoverBelow (tree : FileTree) (extensions : List String) (text : String)
    (directory : List String) : List FoundFile :=
  let files := (tree.filesBelow directory).filter fun (below, _) =>
    hasExtension extensions (below.getLast?.getD "")
  sortedByPath <| files.map fun (below, content) =>
    let location := "/".intercalate below
    ⟨joinPathTexts text location, location, content⟩

/-- The files with one of the extensions under a path text; none when nothing is there. -/
def discover (tree : FileTree) (extensions : List String) (text : String) :
    Except FileFault (List FoundFile) :=
  match tree.find text with
  | .ok (_, .file content) =>
      let file : FoundFile := ⟨text, (Path.ofString text).name, content⟩
      .ok (if hasExtension extensions text then [file] else [])
  | .ok (directory, .directory) => .ok (tree.discoverBelow extensions text directory)
  | .error .nullCharacter => .error .nullCharacter
  | .error _ => .ok []

end FileTree

end FragmentImports
