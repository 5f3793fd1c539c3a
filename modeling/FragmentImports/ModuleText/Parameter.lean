import FragmentImports.ModuleText.Reader

namespace FragmentImports.ModuleText

inductive Parameter where
  | named (hasDefault : Bool)
  | slash
  | others
  | star
  | otherNames
  deriving DecidableEq, Repr

namespace Parameter

def onlyNamed : List Parameter → Bool
  | [] => true
  | .named _ :: rest => onlyNamed rest
  | rest => rest = [.otherNames]

def ordered (defaults : Bool) : List Parameter → Bool
  | [] => true
  | .named hasDefault :: rest => (hasDefault || !defaults) && ordered hasDefault rest
  | .slash :: rest => !rest.contains .slash && ordered defaults rest
  | .others :: rest => onlyNamed rest
  | .star :: rest => rest.head?.any (· matches .named _) && onlyNamed rest
  | .otherNames :: rest => rest = []

/-- Whether parameters may stand in this order; a slash has one in front. -/
def areOrdered (parameters : List Parameter) : Bool :=
  parameters.head? ≠ some .slash && ordered false parameters

end Parameter

inductive Argument where
  | plain
  | spread
  | named
  | spreadNames
  deriving DecidableEq, Repr

namespace Argument

def mayFollow (before : List Argument) : Argument → Bool
  | .plain => !before.contains .named && !before.contains .spreadNames
  | .spread => !before.contains .spreadNames
  | .named | .spreadNames => true

def areOrderedBehind (before : List Argument) : List Argument → Bool
  | [] => true
  | argument :: rest => argument.mayFollow before && areOrderedBehind (argument :: before) rest

end Argument

end FragmentImports.ModuleText
