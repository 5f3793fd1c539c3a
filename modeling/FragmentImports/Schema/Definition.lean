import FragmentImports.Schema.Annotation
import FragmentImports.Schema.Rules

namespace FragmentImports.Schema

open Document

inductive DefinitionError where
  | notParsed (error : SyntaxError)
  | violated (violations : List Violation)
  | badText (error : AnnotationError)
  deriving DecidableEq, Repr

namespace DefinitionError

def report : DefinitionError → String
  | notParsed error => error.report
  | violated violations => "\n\n".intercalate (violations.map Violation.message)
  | badText error => error.report

end DefinitionError

def typeDefinitions (document : Document) : List TypeDefinition :=
  document.definitions.filterMap fun
    | .type definition => some definition
    | _ => none

def bodies (document : Document) (definition : TypeDefinition) : List TypeBody :=
  definition.body :: document.definitions.filterMap fun
    | .typeExtension extension =>
        if extension.name = definition.name then some extension.body else none
    | _ => none

def interfacesOf : TypeBody → List String
  | .object interfaces _ => interfaces
  | .interface interfaces _ => interfaces
  | _ => []

def membersOf : TypeBody → List String
  | .union members => members
  | _ => []

def fieldTypes (field : FieldDefinition) : List String :=
  field.type.namedType :: field.arguments.map fun argument => argument.type.namedType

def referencesOf : TypeBody → List String
  | .scalar => []
  | .object interfaces fields => interfaces ++ fields.flatMap fieldTypes
  | .interface interfaces fields => interfaces ++ fields.flatMap fieldTypes
  | .union members => members
  | .enum _ => []
  | .inputObject fields => fields.map fun field => field.type.namedType

def typeOf (document : Document) (definition : TypeDefinition) : SchemaType :=
  match definition.body with
  | .object .. => .object ((bodies document definition).flatMap interfacesOf)
  | .interface .. => .interface
  | .union _ => .union ((bodies document definition).flatMap membersOf)
  | _ => .leaf

def standardType? (name : String) : Option SchemaType :=
  (standardTypes.find? fun standard => standard.1 = name).map Prod.snd

/-- The types that the definitions of a document refer to; the definition of a standard type has no
effect. -/
def references (document : Document) : List String :=
  document.definitions.flatMap fun
    | .type definition =>
        if (standardType? definition.name).isSome then []
        else (bodies document definition).flatMap referencesOf
    | .directive definition => definition.arguments.map fun argument => argument.type.namedType
    | .schema definition | .schemaExtension definition =>
        definition.operations.map RootOperation.type
    | _ => []

/-- The types of a document in the order of their definitions, followed by the scalars that they
refer to and by the types of introspection. -/
def ofDocument (document : Document) : Schema :=
  let defined := (typeDefinitions document).map fun definition =>
    (definition.name, (standardType? definition.name).getD (typeOf document definition))
  let used := "String" :: "Boolean" :: references document
  let scalars := (specifiedScalars.filter used.contains).map fun name => (name, SchemaType.leaf)
  ⟨.ofList (defined ++ scalars ++ introspectionTypes)⟩

def parse (text : String) : Except DefinitionError Schema := do
  let placed ← (parsePlaced text).mapError .notParsed
  let document : Document := ⟨placed.map Reader.Placed.definition⟩
  match violations document, annotationError? text placed with
  | [], none => return ofDocument document
  | [], some error => throw (.badText error)
  | found, _ => throw (.violated found)

end FragmentImports.Schema
