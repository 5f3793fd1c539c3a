import FragmentImports.OrderedMap
import FragmentImports.Path
import FragmentImports.Text.Basic
import FragmentImports.Text.Utf8

/-!
A tree of directories and files as a value, with the look-ups and changes that a run makes. Path
texts are followed component by component: what lies in front of a component has to be a directory.
-/

namespace FragmentImports

inductive FileNode where
  | directory
  | file (content : ByteArray)

instance : DecidableEq FileNode
  | .directory, .directory => .isTrue rfl
  | .file content, .file other =>
      decidable_of_iff (content.data = other.data) (by simp [ByteArray.ext_iff])
  | .directory, .file _ | .file _, .directory => .isFalse nofun

inductive FileFault where
  | missing
  | notDirectory
  | isDirectory
  | exists
  | notText (fault? : Option Utf8.Fault)
  | nullCharacter
  | nameTooLong
  deriving DecidableEq, Repr

/-- Every directory and file under its components from the root; the root itself is not listed. -/
structure FileTree where
  nodes : OrderedMap (List String) FileNode
  cwd : List String

namespace FileTree

def node? (tree : FileTree) (place : List String) : Option FileNode :=
  if place = [] then some .directory else tree.nodes.get? place

def isDirectoryAt (tree : FileTree) (place : List String) : Bool :=
  tree.node? place = some .directory

/-- A path text as its start and the components behind it. Empty components stay in place. -/
def startOf (tree : FileTree) (text : List Char) : List String :=
  if text.head? = some '/' then [] else tree.cwd

def partsOf (text : List Char) : List String := (text.splitOn '/').map String.ofList

def fitsName (part : String) : Bool := part.utf8ByteSize ≤ 255

def fitsPath (text : String) : Bool := text.utf8ByteSize < 4096

/-- Follows components from a place; each step needs a directory. -/
def follow (tree : FileTree) :
    (place : List String) → List String → Except FileFault (List String)
  | place, [] => .ok place
  | place, part :: rest =>
      match tree.node? place with
      | none => .error .missing
      | some (.file _) => .error .notDirectory
      | some .directory =>
          if part = "" ∨ part = "." then tree.follow place rest
          else if part = ".." then tree.follow place.dropLast rest
          else if !fitsName part then .error .nameTooLong
          else tree.follow (place ++ [part]) rest

def find (tree : FileTree) (text : String) : Except FileFault (List String × FileNode) := do
  if text = "" then throw .missing
  if text.toList.contains '\x00' then throw .nullCharacter
  if !fitsPath text then throw .nameTooLong
  let place ← tree.follow (tree.startOf text.toList) (partsOf text.toList)
  match tree.node? place with
  | some node => return (place, node)
  | none => throw .missing

def find? (tree : FileTree) (text : String) : Option FileNode :=
  (tree.find text).toOption.map Prod.snd

def isFile (tree : FileTree) (text : String) : Bool :=
  match tree.find? text with
  | some (.file _) => true
  | _ => false

def isDirectory (tree : FileTree) (text : String) : Bool := tree.find? text = some .directory

def readBytes (tree : FileTree) (text : String) : Except FileFault ByteArray := do
  match (← tree.find text).2 with
  | .file content => return content
  | .directory => throw .isDirectory

def decode (content : ByteArray) : Except FileFault String :=
  match decodeText content with
  | some text => .ok text
  | none => .error (.notText (Utf8.fault? content))

def readText (tree : FileTree) (text : String) : Except FileFault String := do
  decode (← tree.readBytes text)

/-- The files below a directory with their components behind it. -/
def filesBelow (tree : FileTree) (directory : List String) : List (List String × ByteArray) :=
  tree.nodes.entries.filterMap fun (place, node) => match node with
    | .directory => none
    | .file content =>
        if directory.isPrefixOf place then some (place.drop directory.length, content) else none

def put (tree : FileTree) (place : List String) (node : FileNode) : FileTree :=
  { tree with nodes := tree.nodes.insert place node }

/-- Makes the directories along components that are not there yet. Those that were made before one
cannot be made stay. -/
def makeAlong (tree : FileTree) :
    (place : List String) → List String → FileTree × Except FileFault Unit
  | _, [] => (tree, .ok ())
  | place, part :: rest =>
      if part = "" ∨ part = "." then tree.makeAlong place rest
      else if part = ".." then tree.makeAlong place.dropLast rest
      else
        let next := place ++ [part]
        match tree.node? next with
        | some .directory => tree.makeAlong next rest
        | some (.file _) => (tree, .error (if rest = [] then .exists else .notDirectory))
        | none =>
            if part.toList.contains '\x00' then (tree, .error .nullCharacter)
            else if !fitsName part then (tree, .error .nameTooLong)
            else (tree.put next .directory).makeAlong next rest
termination_by _ parts => parts.length

def withDirectories (tree : FileTree) (parts : List String) : Except FileFault FileTree :=
  match tree.makeAlong [] parts with
  | (made, .ok _) => .ok made
  | (_, .error fault) => .error fault

/-- The components of a path text that can be looked up with what stands in front of them, which
takes `front` bytes. -/
def fittingParts (front : Nat) : List String → List String
  | [] => []
  | part :: rest =>
      let size := front + part.utf8ByteSize
      if size < 4096 then part :: fittingParts (size + 1) rest else []

def makeDirectories (tree : FileTree) (text : String) : FileTree × Except FileFault Unit :=
  if text = "" then (tree, .error .missing)
  else
    let parts := partsOf text.toList
    match tree.makeAlong (tree.startOf text.toList) (fittingParts 0 parts) with
    | (made, .ok _) =>
        (made, if (fittingParts 0 parts).length = parts.length then .ok () else .error .nameTooLong)
    | (made, .error fault) => (made, .error fault)

def writeFile (tree : FileTree) (text : String) (content : String) : Except FileFault FileTree := do
  if text.toList.contains '\x00' then throw .nullCharacter
  if !fitsPath text then throw .nameTooLong
  let parts := partsOf text.toList
  let place ← tree.follow (tree.startOf text.toList) parts
  match tree.node? place with
  | some .directory => throw .isDirectory
  | some (.file _) => return tree.put place (.file content.toUTF8)
  | none =>
      if parts.getLast? = some "" then throw .isDirectory
      else if tree.isDirectoryAt place.dropLast then
        return tree.put place (.file content.toUTF8)
      else throw .missing

def changesSince (tree earlier : FileTree) : List (List String × ByteArray) :=
  (tree.filesBelow []).filter fun (place, content) =>
    earlier.node? place ≠ some (.file content)

end FileTree

def joinPathTexts (first second : String) : String :=
  if second.toList.head? = some '/' ∨ first = "" then second
  else if first.toList.getLast? = some '/' then first ++ second
  else first ++ "/" ++ second

def directoryText (text : String) : String :=
  let head := (text.toList.reverse.dropWhile (· ≠ '/')).reverse
  let bare := (head.reverse.dropWhile (· = '/')).reverse
  String.ofList (if bare = [] then head else bare)

end FragmentImports
