import FragmentImports.ModuleText.Statement
import FragmentImports.OutputFile
import FragmentImports.Text.Quoted

/-!
The preamble of a generated file: its imports and the table of the external fragments that it uses.
-/

namespace FragmentImports

def ExternalFragment.row (fragment : ExternalFragment) : String :=
  "    (" ++ quoted fragment.name ++ ", " ++ toString fragment.depth ++ ", "
    ++ quoted fragment.onType ++ "),\n"

namespace Preamble

def heading (location : String) : String :=
  "\"\"\"Fragment imports for " ++ location ++ ". Generated file, do not edit.\"\"\"\n"

def importBlock (statements : List String) : String :=
  if statements = [] then "" else "\n" ++ String.join (statements.map (· ++ "\n"))

def table (external : List ExternalFragment) : String :=
  "\n# (name, depth, on_type) of fragments defined in other documents\nEXTERNAL_FRAGMENTS = [\n"
    ++ String.join (external.map ExternalFragment.row) ++ "]\n"

def text (location : String) (statements : List String) (external : List ExternalFragment) :
    String :=
  heading location ++ importBlock statements ++ table external

structure Fault where
  path : String
  deriving DecidableEq, Repr

def Fault.message (fault : Fault) : String := "Generated invalid Python for " ++ fault.path

/-- Whether a text is a module of edition 3.11. Later editions take more texts for modules. -/
def isValid (text : String) : Bool :=
  !text.toList.contains '\x00' && ModuleText.isModule text.toList

/-- Lets a text through that is a module of some edition. -/
def check (accepts : String → Bool) (path text : String) : Except Fault String :=
  if accepts text then .ok text else .error ⟨path⟩

end Preamble

namespace OutputFile

def text (file : OutputFile) : String :=
  Preamble.text file.source.location file.importStatements file.plan.external

def preamble (file : OutputFile) : Except Preamble.Fault String :=
  Preamble.check Preamble.isValid file.path file.text

end OutputFile

end FragmentImports
