import FragmentImports.Distinct
import FragmentImports.Text.Words

/-!
Names of the symbols generated for a fragment: a document variable and one type per possible type.
-/

namespace FragmentImports

structure NamingConvention where
  typesPrefix : String := ""
  typesSuffix : String := ""
  dedupeOperationSuffix : Bool := false
  omitOperationSuffix : Bool := false
  fragmentVariablePrefix : String := ""
  fragmentVariableSuffix : String := "FragmentDoc"
  transformUnderscore : Bool := false
  deriving DecidableEq, Repr

/-- Texts put around a name before it is converted, and the configured affixes put around the
result. -/
structure Affixes where
  before : String := ""
  after : String := ""
  withTypesPrefix : Bool := true
  withTypesSuffix : Bool := true
  deriving DecidableEq, Repr

def fragmentWord : List Char := "fragment".toList

def endsInFragment (name : String) : Bool :=
  fragmentWord.isSuffixOf (name.toList.map Char.toLower)

def startsWithFragment (text : String) : Bool :=
  fragmentWord.isPrefixOf (text.toList.map Char.toLower)

namespace NamingConvention

def convert (naming : NamingConvention) (name : String) (affixes : Affixes := {}) : String :=
  (if affixes.withTypesPrefix then naming.typesPrefix else "")
    ++ pascalCase (affixes.before ++ name ++ affixes.after) naming.transformUnderscore
    ++ (if affixes.withTypesSuffix then naming.typesSuffix else "")

/-- The word appended to fragment types, unless it is omitted or would repeat the end of the
name. -/
def fragmentSuffix (naming : NamingConvention) (name : String) : String :=
  if naming.omitOperationSuffix then ""
  else if naming.dedupeOperationSuffix && endsInFragment name then ""
  else "Fragment"

def variableSuffix (naming : NamingConvention) (name : String) : String :=
  if naming.omitOperationSuffix then ""
  else if naming.dedupeOperationSuffix && endsInFragment name
      && startsWithFragment naming.fragmentVariableSuffix then
    String.ofList (naming.fragmentVariableSuffix.toList.drop fragmentWord.length)
  else naming.fragmentVariableSuffix

def variableName (naming : NamingConvention) (name : String) : String :=
  naming.convert name
    { before := naming.fragmentVariablePrefix
      after := naming.variableSuffix name
      withTypesPrefix := false
      withTypesSuffix := false }

def typeName (naming : NamingConvention) (name : String) : String :=
  naming.convert name { after := naming.fragmentSuffix name }

def specializedTypeName (naming : NamingConvention) (name possibleType : String) : String :=
  naming.convert name { after := "_" ++ possibleType ++ "_" ++ naming.fragmentSuffix name }

end NamingConvention

/-- The symbols that the generated file of a fragment exports, in order: the document variable when
asked for, then the plain type for a single possible type, else one type per possible type. -/
def fragmentSymbols (naming : NamingConvention) (includeVariable : Bool) (name : String)
    (possibleTypes : List String) : List String :=
  let documentVariable := if includeVariable then [naming.variableName name] else []
  let types := match possibleTypes with
    | [_] => [naming.typeName name]
    | _ => possibleTypes.map (naming.specializedTypeName name)
  distinct (documentVariable ++ types)

end FragmentImports
