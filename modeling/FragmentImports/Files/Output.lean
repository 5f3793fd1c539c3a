import FragmentImports.Preamble
import FragmentImports.Template

/-!
Writing the preambles of planned files below a directory, one after the other. What was written
before a failure stays.
-/

namespace FragmentImports

inductive OutputFault where
  | preamble (fault : Preamble.Fault)
  | template (fault : Template.Fault)
  | file (fault : FileFault)
  deriving DecidableEq, Repr

/-- What preambles are written with: an engine for templates, the check that a text has to pass, the
directory of the templates and the one that is written to. -/
structure PreambleWriter where
  engine : Template.Engine
  accepts : String → Bool
  templateDirectory? : Option String
  outputDirectory : String

namespace PreambleWriter

variable (writer : PreambleWriter)

/-- The directory of templates, if it holds the one that stands for every preamble. -/
def template? (tree : FileTree) : Option String :=
  writer.templateDirectory?.filter fun directory =>
    tree.isDirectory directory && tree.isFile (Template.pathIn directory)

def render (template? : Option String) (tree : FileTree) (file : OutputFile) :
    Except OutputFault String := do
  let text ← match template? with
    | none => pure file.text
    | some directory => (writer.engine tree directory file.values).mapError .template
  (Preamble.check writer.accepts file.path text).mapError .preamble

def pathOf (file : OutputFile) : String := joinPathTexts writer.outputDirectory file.path

/-- Writes one preamble and gives back its path text. Directories that were made for it stay when it
cannot be written. -/
def write (template? : Option String) (tree : FileTree) (file : OutputFile) :
    FileTree × Except OutputFault String :=
  match writer.render template? tree file with
  | .error fault => (tree, .error fault)
  | .ok text =>
      match tree.makeDirectories (directoryText (writer.pathOf file)) with
      | (made, .error fault) => (made, .error (.file fault))
      | (made, .ok _) =>
          match made.writeFile (writer.pathOf file) text with
          | .error fault => (made, .error (.file fault))
          | .ok written => (written, .ok (writer.pathOf file))

/-- Writes preambles in order up to the first failure: the tree that is left, and the path texts
written or the failure. -/
def writeEach (template? : Option String) :
    FileTree → List OutputFile → FileTree × Except OutputFault (List String)
  | tree, [] => (tree, .ok [])
  | tree, file :: rest =>
      match writer.write template? tree file with
      | (next, .error fault) => (next, .error fault)
      | (next, .ok path) =>
          let (last, result) := writeEach template? next rest
          (last, result.map (path :: ·))

/-- Writes the preambles of a run. Whether there is a template is seen once, before the first of
them. -/
def writeAll (tree : FileTree) (files : List OutputFile) :
    FileTree × Except OutputFault (List String) :=
  match writer.templateDirectory?.map tree.find with
  | some (.error .nameTooLong) => (tree, .error (.file .nameTooLong))
  | _ => writer.writeEach (writer.template? tree) tree files

end PreambleWriter

end FragmentImports
