import FragmentImports.OrderedMap
import FragmentImports.Document.Value

/-!
Schemas as far as fragments see them: named types in order, and the object types that each of them
may resolve to.
-/

namespace FragmentImports

inductive SchemaType where
  | object (interfaces : List String)
  | interface
  | union (members : List String)
  | leaf
  deriving DecidableEq, Repr

structure Schema where
  types : OrderedMap String SchemaType
  deriving DecidableEq

namespace Schema

def get? (schema : Schema) (name : String) : Option SchemaType := schema.types.get? name

/-- The object types that list an interface, in the order of the schema, once for every listing. -/
def implementations (schema : Schema) (interface : String) : List String :=
  schema.types.entries.flatMap fun (name, type) => match type with
    | .object interfaces => (interfaces.filter (· = interface)).map fun _ => name
    | _ => []

def possibleTypesOf (schema : Schema) (name : String) : SchemaType → List String
  | .object _ => [name]
  | .interface => schema.implementations name
  | .union members => members
  | .leaf => []

def possibleTypes? (schema : Schema) (name : String) : Option (List String) :=
  (schema.get? name).map (schema.possibleTypesOf name)

def possibleTypesOfReference? (schema : Schema) (type : Document.TypeReference) :
    Option (List String) :=
  schema.possibleTypes? type.namedType

end Schema

def specifiedScalars : List String := ["String", "Int", "Float", "Boolean", "ID"]

def introspectionTypes : List (String × SchemaType) :=
  [("__Schema", .object []), ("__Directive", .object []), ("__DirectiveLocation", .leaf),
   ("__Type", .object []), ("__Field", .object []), ("__InputValue", .object []),
   ("__EnumValue", .object []), ("__TypeKind", .leaf)]

/-- Types that no definition of a schema can change. -/
def standardTypes : List (String × SchemaType) :=
  specifiedScalars.map (fun name => (name, .leaf)) ++ introspectionTypes

def standardTypeNames : List String := standardTypes.map Prod.fst

end FragmentImports
