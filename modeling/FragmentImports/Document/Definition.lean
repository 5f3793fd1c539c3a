import FragmentImports.Document.Selection

/-!
Definitions of GraphQL documents: operations, fragments and the type system.
-/

namespace FragmentImports.Document

inductive OperationKind where
  | query
  | mutation
  | subscription
  deriving DecidableEq, Repr

namespace OperationKind

def keyword : OperationKind → String
  | query => "query"
  | mutation => "mutation"
  | subscription => "subscription"

def ofKeyword? (word : String) : Option OperationKind :=
  [query, mutation, subscription].find? fun kind => kind.keyword = word

end OperationKind

structure VariableDefinition where
  description? : Option Description
  name : String
  type : TypeReference
  default? : Option Value
  directives : List Directive
  deriving DecidableEq, Repr

structure Operation where
  description? : Option Description
  kind : OperationKind
  name? : Option String
  variableDefinitions : List VariableDefinition
  directives : List Directive
  selections : List Selection
  deriving DecidableEq, Repr

structure Fragment where
  description? : Option Description
  name : String
  onType : String
  directives : List Directive
  selections : List Selection
  deriving DecidableEq, Repr

structure InputValue where
  description? : Option Description
  name : String
  type : TypeReference
  default? : Option Value
  directives : List Directive
  deriving DecidableEq, Repr

structure FieldDefinition where
  description? : Option Description
  name : String
  arguments : List InputValue
  type : TypeReference
  directives : List Directive
  deriving DecidableEq, Repr

structure EnumValue where
  description? : Option Description
  name : String
  directives : List Directive
  deriving DecidableEq, Repr

inductive TypeBody where
  | scalar
  | object (interfaces : List String) (fields : List FieldDefinition)
  | interface (interfaces : List String) (fields : List FieldDefinition)
  | union (members : List String)
  | enum (values : List EnumValue)
  | inputObject (fields : List InputValue)
  deriving DecidableEq, Repr

structure TypeDefinition where
  description? : Option Description
  name : String
  directives : List Directive
  body : TypeBody
  deriving DecidableEq, Repr

structure RootOperation where
  kind : OperationKind
  type : String
  deriving DecidableEq, Repr

structure SchemaDefinition where
  description? : Option Description
  directives : List Directive
  operations : List RootOperation
  deriving DecidableEq, Repr

structure DirectiveDefinition where
  description? : Option Description
  name : String
  arguments : List InputValue
  directives : List Directive
  repeatable : Bool
  locations : List String
  deriving DecidableEq, Repr

structure DirectiveExtension where
  name : String
  directives : List Directive
  deriving DecidableEq, Repr

inductive Definition where
  | operation (operation : Operation)
  | fragment (fragment : Fragment)
  | schema (definition : SchemaDefinition)
  | type (definition : TypeDefinition)
  | directive (definition : DirectiveDefinition)
  | schemaExtension (definition : SchemaDefinition)
  | typeExtension (definition : TypeDefinition)
  | directiveExtension (extension : DirectiveExtension)
  deriving DecidableEq, Repr

namespace Definition

def asFragment? : Definition → Option Fragment
  | fragment found => some found
  | _ => none

def isOperation : Definition → Bool
  | operation _ => true
  | _ => false

def selections? : Definition → Option (List Selection)
  | operation found => some found.selections
  | fragment found => some found.selections
  | _ => none

end Definition

end FragmentImports.Document

namespace FragmentImports

structure Document where
  definitions : List Document.Definition
  deriving DecidableEq, Repr

namespace Document

def fragments (document : Document) : List Fragment :=
  document.definitions.filterMap Definition.asFragment?

def hasOperations (document : Document) : Bool := document.definitions.any Definition.isOperation

/-- A part of a document that can spread fragments. -/
inductive Node where
  | document (document : Document)
  | definition (definition : Definition)
  | selectionSet (selections : List Selection)
  deriving DecidableEq, Repr

namespace Node

def spreads : Node → List String
  | document found => found.definitions.flatMap fun part =>
      Selection.allSpreads (part.selections?.getD [])
  | definition found => Selection.allSpreads (found.selections?.getD [])
  | selectionSet selections => Selection.allSpreads selections

def localFragments : Node → List String
  | document found => found.fragments.map Fragment.name
  | definition found => (found.asFragment?.map Fragment.name).toList
  | selectionSet _ => []

end Node

end Document

end FragmentImports
