import FragmentImports.OrderedMap
import FragmentImports.Text.Basic
import FragmentImports.Text.Quoted

namespace FragmentImports.CommandLine

structure BadHeader where
  text : String
  deriving DecidableEq, Repr

def BadHeader.message (bad : BadHeader) : String :=
  "Invalid value for --header: Expected 'Name: value', got " ++ quoted bad.text

def header (text : String) : Except BadHeader (String × String) :=
  let name := stripBlanks (text.toList.takeWhile (· ≠ ':'))
  if text.toList.contains ':' ∧ name ≠ [] then
    .ok (String.ofList name,
      String.ofList (stripBlanks ((text.toList.dropWhile (· ≠ ':')).drop 1)))
  else .error ⟨text⟩

/-- The headers of several texts; of two with one name the later value counts. -/
def headers (texts : List String) : Except BadHeader (OrderedMap String String) := do
  return .ofList (← texts.mapM header)

end FragmentImports.CommandLine
