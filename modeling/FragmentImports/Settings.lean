import FragmentImports.Naming
import FragmentImports.OutputPath

/-!
Settings of a generation run: its plugins, how documents are represented, names and paths.
-/

namespace FragmentImports

inductive DocumentMode where
  | graphQLTag
  | documentNode
  | documentNodeImportFragments
  | external
  | string
  deriving DecidableEq, Repr

namespace DocumentMode

def all : List DocumentMode :=
  [graphQLTag, documentNode, documentNodeImportFragments, external, string]

def render : DocumentMode → String
  | graphQLTag => "graphQLTag"
  | documentNode => "documentNode"
  | documentNodeImportFragments => "documentNodeImportFragments"
  | external => "external"
  | string => "string"

def ofString? (text : String) : Option DocumentMode := all.find? fun mode => mode.render = text

def exportsVariables : DocumentMode → Bool
  | graphQLTag | string => true
  | documentNode | documentNodeImportFragments | external => false

end DocumentMode

structure Plugin where
  name : String
  emitsDocumentValue : Bool := false
  deriving DecidableEq, Repr

structure Settings where
  plugins : List Plugin := []
  documentMode : DocumentMode := .graphQLTag
  naming : NamingConvention := {}
  layout : OutputLayout := {}
  /-- A generated file or a module that holds the base types. -/
  baseTypesPath? : Option String := none
  deriving DecidableEq, Repr

namespace Settings

def emitsDocumentValues (settings : Settings) : Bool :=
  settings.plugins.any Plugin.emitsDocumentValue

def includesDocumentVariables (settings : Settings) : Bool :=
  settings.emitsDocumentValues && settings.documentMode.exportsVariables

end Settings

end FragmentImports
