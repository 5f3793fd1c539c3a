import FragmentImports.Files.Tree
import FragmentImports.OutputFile

/-!
Templates that stand for the built-in preamble. What a template renders to is left to an engine.
-/

namespace FragmentImports.Template

structure Values where
  source : String
  importStatements : List String
  external : List ExternalFragment

/-- A fault of some kind, with its message if it is one that is told. -/
structure Fault where
  kind : String
  message? : Option String := none
  deriving DecidableEq, Repr

/-- Renders the template of a directory. Other files of the tree can be part of what it renders. -/
abbrev Engine := FileTree → (directory : String) → Values → Except Fault String

def pathIn (directory : String) : String :=
  joinPathTexts (Path.ofString directory).render "preamble.py.j2"

def holdsMarkup : List Char → Bool
  | '{' :: d :: rest => d = '{' || d = '%' || d = '#' || holdsMarkup (d :: rest)
  | _ :: rest => holdsMarkup rest
  | [] => false

/-- The engine that renders only templates without markup: they stand for themselves. -/
def unmarked : Engine := fun tree directory _ =>
  match tree.readText (pathIn directory) with
  | .error (.notText fault?) => .error ⟨"UnicodeDecodeError", fault?.map Utf8.Fault.message⟩
  | .error _ => .error ⟨"TemplateNotFound", none⟩
  | .ok text => if holdsMarkup text.toList then .error ⟨"TemplateError", none⟩ else .ok text

end FragmentImports.Template

namespace FragmentImports

def OutputFile.values (file : OutputFile) : Template.Values :=
  ⟨file.source.location, file.importStatements, file.plan.external⟩

end FragmentImports
