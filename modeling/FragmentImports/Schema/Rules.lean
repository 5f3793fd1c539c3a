import FragmentImports.Document.Definition
import FragmentImports.Document.Parser
import FragmentImports.Schema
import FragmentImports.Schema.Suggestion

/-!
Rules that a schema document has to keep. The document is walked once, in document order; at every
part the rules are asked in a fixed order, and every violation is recorded.
-/

namespace FragmentImports.Schema

open Document

inductive Violation where
  | repeatedSchema
  | repeatedRoot (kind : OperationKind)
  | repeatedType (name : String)
  | repeatedEnumValue (type value : String)
  | repeatedField (type field : String)
  | repeatedArgumentDefinition (owner argument : String)
  | repeatedDirectiveDefinition (name : String)
  | unknownType (name : String) (suggestions : List String)
  | unknownDirective (name : String)
  | misplacedDirective (name location : String)
  | repeatedDirective (name : String)
  | extendsOtherKind (kind name : String)
  | extendsUnknown (name : String) (suggestions : List String)
  | unknownArgument (directive argument : String) (suggestions : List String)
  | repeatedArgument (name : String)
  | repeatedInputField (name : String)
  | missingArgument (directive argument type : String)
  deriving DecidableEq, Repr

namespace Violation

def message : Violation → String
  | repeatedSchema => "Must provide only one schema definition."
  | repeatedRoot kind => "There can be only one " ++ kind.keyword ++ " type in schema."
  | repeatedType name => "There can be only one type named '" ++ name ++ "'."
  | repeatedEnumValue type value =>
      "Enum value '" ++ type ++ "." ++ value ++ "' can only be defined once."
  | repeatedField type field => "Field '" ++ type ++ "." ++ field ++ "' can only be defined once."
  | repeatedArgumentDefinition owner argument =>
      "Argument '" ++ owner ++ "(" ++ argument ++ ":)' can only be defined once."
  | repeatedDirectiveDefinition name => "There can be only one directive named '@" ++ name ++ "'."
  | unknownType name suggestions =>
      "Unknown type '" ++ name ++ "'." ++ Suggestion.question suggestions
  | unknownDirective name => "Unknown directive '@" ++ name ++ "'."
  | misplacedDirective name location =>
      "Directive '@" ++ name ++ "' may not be used on " ++ location ++ "."
  | repeatedDirective name =>
      "The directive '@" ++ name ++ "' can only be used once at this location."
  | extendsOtherKind kind name => "Cannot extend non-" ++ kind ++ " type '" ++ name ++ "'."
  | extendsUnknown name suggestions =>
      "Cannot extend type '" ++ name ++ "' because it is not defined."
        ++ Suggestion.question suggestions
  | unknownArgument directive argument suggestions =>
      "Unknown argument '" ++ argument ++ "' on directive '@" ++ directive ++ "'."
        ++ Suggestion.question suggestions
  | repeatedArgument name => "There can be only one argument named '" ++ name ++ "'."
  | repeatedInputField name => "There can be only one input field named '" ++ name ++ "'."
  | missingArgument directive argument type =>
      "Argument '@" ++ directive ++ "(" ++ argument ++ ":)' of type '" ++ type
        ++ "' is required, but it was not provided."

end Violation

structure DirectiveRule where
  locations : List String
  arguments : List String
  required : List (String × String)
  repeatable : Bool

def DirectiveRule.ofDefinition (definition : DirectiveDefinition) : DirectiveRule where
  locations := definition.locations
  arguments := definition.arguments.map InputValue.name
  required := (definition.arguments.filter fun argument =>
    argument.type.isNonNull && argument.default?.isNone).map fun argument =>
      (argument.name, argument.type.render)
  repeatable := definition.repeatable

def specifiedDirectives : List (String × DirectiveRule) :=
  let conditional : DirectiveRule :=
    ⟨["FIELD", "FRAGMENT_SPREAD", "INLINE_FRAGMENT"], ["if"], [("if", "Boolean!")], false⟩
  [("include", conditional),
   ("skip", conditional),
   ("deprecated",
    ⟨["FIELD_DEFINITION", "ARGUMENT_DEFINITION", "INPUT_FIELD_DEFINITION", "ENUM_VALUE",
      "DIRECTIVE_DEFINITION"], ["reason"], [], false⟩),
   ("specifiedBy", ⟨["SCALAR"], ["url"], [("url", "String!")], false⟩),
   ("oneOf", ⟨["INPUT_OBJECT"], [], [], false⟩)]

def kindWord : TypeBody → String
  | .scalar => "scalar"
  | .object .. => "object"
  | .interface .. => "interface"
  | .union _ => "union"
  | .enum _ => "enum"
  | .inputObject _ => "input object"

def kindLocation (body : TypeBody) : String :=
  (kindWord body).map fun c => if c = ' ' then '_' else c.toUpper

def locationWords (location : String) : String :=
  location.map fun c => if c = '_' then ' ' else c.toLower

/-- What the rules know before the walk. -/
structure Rulebook where
  types : OrderedMap String String
  directives : OrderedMap String DirectiveRule

def Rulebook.ofDocument (document : Document) : Rulebook where
  types := .ofList (document.definitions.filterMap fun
    | .type definition => some (definition.name, kindWord definition.body)
    | _ => none)
  directives := .ofList (specifiedDirectives ++ document.definitions.filterMap fun
    | .directive definition => some (definition.name, .ofDefinition definition)
    | _ => none)

structure Progress where
  schemaSeen : Bool := false
  roots : List OperationKind := []
  types : List String := []
  enumValues : List (String × String) := []
  fields : List (String × String) := []
  directives : List String := []
  schemaDirectives : List String := []
  typeDirectives : List (String × String) := []
  violations : List Violation := []

abbrev Walk := ReaderT Rulebook (StateM Progress)

namespace Walk

def record (violation : Violation) : Walk Unit :=
  modify fun progress => { progress with violations := violation :: progress.violations }

def repeated {α : Type} [DecidableEq α] (items : List α) : List α :=
  items.eraseDups.filter fun item => 1 < items.count item

def argumentDefinitions (owner : String) (arguments : List InputValue) : Walk Unit :=
  for name in repeated (arguments.map InputValue.name) do
    record (.repeatedArgumentDefinition owner name)

def givenArguments (arguments : List Argument) : Walk Unit :=
  for name in repeated (arguments.map Argument.name) do record (.repeatedArgument name)

def typeName (inTypeSystem : Bool) (name : String) : Walk Unit := do
  let defined := (← read).types.keys
  unless defined.contains name || (inTypeSystem && standardTypeNames.contains name) do
    let known := if inTypeSystem then standardTypeNames ++ defined else defined
    record (.unknownType name (Suggestion.nearest name known))

mutual

def value : Value → Walk Unit
  | .scalar _ => pure ()
  | .list items => values items
  | .object fields => objectFields [] fields

def values : List Value → Walk Unit
  | [] => pure ()
  | item :: rest => do
      value item
      values rest

def objectFields (seen : List String) : List (String × Value) → Walk Unit
  | [] => pure ()
  | (name, item) :: rest => do
      if seen.contains name then record (.repeatedInputField name)
      value item
      objectFields (name :: seen) rest

end

def directive (location : String) (used : Directive) : Walk Unit := do
  let rule? := (← read).directives.get? used.name
  match rule? with
  | none => record (.unknownDirective used.name)
  | some rule =>
      unless rule.locations.contains location do
        record (.misplacedDirective used.name (locationWords location))
      for argument in used.arguments do
        unless rule.arguments.contains argument.name do
          record (.unknownArgument used.name argument.name
            (Suggestion.nearest argument.name rule.arguments))
  givenArguments used.arguments
  for argument in used.arguments do value argument.value
  if let some rule := rule? then
    for (name, type) in rule.required do
      unless used.arguments.any fun argument => argument.name = name do
        record (.missingArgument used.name name type)

def directives (location : String) (used : List Directive) : Walk Unit :=
  for one in used do directive location one

/-- Notes the directives that may be used once only, and gives back those noted by now. -/
def noteDirectives (seen : List String) : List Directive → Walk (List String)
  | [] => return seen
  | used :: rest => do
      let once := ((← read).directives.get? used.name).any fun rule => !rule.repeatable
      if once && seen.contains used.name then record (.repeatedDirective used.name)
      noteDirectives (if once then used.name :: seen else seen) rest

def distinctDirectives (used : List Directive) : Walk Unit := do
  let _ ← noteDirectives [] used

def distinctSchemaDirectives (used : List Directive) : Walk Unit := do
  let seen ← noteDirectives (← get).schemaDirectives used
  modify fun progress => { progress with schemaDirectives := seen }

/-- A type and its extensions count as one place. -/
def distinctTypeDirectives (type : String) (used : List Directive) : Walk Unit := do
  let before := ((← get).typeDirectives.filter (·.1 = type)).map Prod.snd
  let seen ← noteDirectives before used
  modify fun progress => { progress with
    typeDirectives := progress.typeDirectives ++ seen.map fun name => (type, name) }

def inputValue (location : String) (definition : InputValue) : Walk Unit := do
  distinctDirectives definition.directives
  typeName true definition.type.namedType
  definition.default?.forM value
  directives location definition.directives

def fieldDefinition (definition : FieldDefinition) : Walk Unit := do
  distinctDirectives definition.directives
  for argument in definition.arguments do inputValue "ARGUMENT_DEFINITION" argument
  typeName true definition.type.namedType
  directives "FIELD_DEFINITION" definition.directives

def enumValue (definition : EnumValue) : Walk Unit := do
  distinctDirectives definition.directives
  directives "ENUM_VALUE" definition.directives

/-- Records the names that were met before under the same owner. -/
def noteMembers (violation : String → String → Violation) (owner : String) :
    (met : List (String × String)) → List String → Walk (List (String × String))
  | met, [] => return met
  | met, name :: rest => do
      if met.contains (owner, name) then record (violation owner name)
      noteMembers violation owner ((owner, name) :: met) rest

def distinctFields (type : String) (names : List String) : Walk Unit := do
  let met ← noteMembers .repeatedField type (← get).fields names
  modify fun progress => { progress with fields := met }

def distinctEnumValues (type : String) (names : List String) : Walk Unit := do
  let met ← noteMembers .repeatedEnumValue type (← get).enumValues names
  modify fun progress => { progress with enumValues := met }

def distinctMembers (definition : TypeDefinition) : Walk Unit := do
  let fieldsWithArguments (fields : List FieldDefinition) : Walk Unit := do
    distinctFields definition.name (fields.map FieldDefinition.name)
    for field in fields do
      argumentDefinitions (definition.name ++ "." ++ field.name) field.arguments
  match definition.body with
  | .object _ fields => fieldsWithArguments fields
  | .interface _ fields => fieldsWithArguments fields
  | .inputObject fields => distinctFields definition.name (fields.map InputValue.name)
  | .enum values => distinctEnumValues definition.name (values.map EnumValue.name)
  | _ => pure ()

def typeParts (definition : TypeDefinition) : Walk Unit := do
  let own := directives (kindLocation definition.body) definition.directives
  let fieldsOf (interfaces : List String) (fields : List FieldDefinition) : Walk Unit := do
    for interface in interfaces do typeName true interface
    own
    for field in fields do fieldDefinition field
  match definition.body with
  | .scalar => own
  | .object interfaces fields => fieldsOf interfaces fields
  | .interface interfaces fields => fieldsOf interfaces fields
  | .union members =>
      own
      for member in members do typeName true member
  | .enum values =>
      own
      for value in values do enumValue value
  | .inputObject fields =>
      own
      for field in fields do inputValue "INPUT_FIELD_DEFINITION" field

def typeDefinition (definition : TypeDefinition) : Walk Unit := do
  if (← get).types.contains definition.name then record (.repeatedType definition.name)
  modify fun progress => { progress with types := definition.name :: progress.types }
  distinctMembers definition
  distinctTypeDirectives definition.name definition.directives
  typeParts definition

def typeExtension (extension : TypeDefinition) : Walk Unit := do
  distinctMembers extension
  distinctTypeDirectives extension.name extension.directives
  let defined := (← read).types
  match defined.get? extension.name with
  | some kind =>
      if kind ≠ kindWord extension.body then
        record (.extendsOtherKind (kindWord extension.body) extension.name)
  | none => record (.extendsUnknown extension.name (Suggestion.nearest extension.name defined.keys))
  typeParts extension

def rootOperations (operations : List RootOperation) : Walk Unit :=
  for root in operations do
    if (← get).roots.contains root.kind then record (.repeatedRoot root.kind)
    modify fun progress => { progress with roots := root.kind :: progress.roots }

def schemaParts (definition : SchemaDefinition) : Walk Unit := do
  rootOperations definition.operations
  distinctSchemaDirectives definition.directives
  directives "SCHEMA" definition.directives
  for root in definition.operations do typeName true root.type

def schemaDefinition (definition : SchemaDefinition) : Walk Unit := do
  if (← get).schemaSeen then record .repeatedSchema
  modify fun progress => { progress with schemaSeen := true }
  schemaParts definition

def directiveDefinition (definition : DirectiveDefinition) : Walk Unit := do
  argumentDefinitions ("@" ++ definition.name) definition.arguments
  if (← get).directives.contains definition.name then
    record (.repeatedDirectiveDefinition definition.name)
  modify fun progress => { progress with directives := definition.name :: progress.directives }
  distinctDirectives definition.directives
  for argument in definition.arguments do inputValue "ARGUMENT_DEFINITION" argument
  directives "DIRECTIVE_DEFINITION" definition.directives

def directiveExtension (extension : DirectiveExtension) : Walk Unit := do
  distinctDirectives extension.directives
  directives "DIRECTIVE_DEFINITION" extension.directives

mutual

def selection : Selection → Walk Unit
  | .field _ _ arguments used inner? => do
      distinctDirectives used
      givenArguments arguments
      for argument in arguments do value argument.value
      directives "FIELD" used
      match inner? with
      | none => pure ()
      | some inner => selections inner
  | .spread _ used => do
      distinctDirectives used
      directives "FRAGMENT_SPREAD" used
  | .inline onType? used inner => do
      distinctDirectives used
      onType?.forM (typeName false)
      directives "INLINE_FRAGMENT" used
      selections inner

def selections : List Selection → Walk Unit
  | [] => pure ()
  | one :: rest => do
      selection one
      selections rest

end

def operation (found : Operation) : Walk Unit := do
  distinctDirectives found.directives
  for definition in found.variableDefinitions do
    distinctDirectives definition.directives
    typeName false definition.type.namedType
    definition.default?.forM value
    directives "VARIABLE_DEFINITION" definition.directives
  directives (found.kind.keyword.map Char.toUpper) found.directives
  selections found.selections

def fragment (found : Fragment) : Walk Unit := do
  distinctDirectives found.directives
  typeName false found.onType
  directives "FRAGMENT_DEFINITION" found.directives
  selections found.selections

def definition : Definition → Walk Unit
  | .operation found => operation found
  | .fragment found => fragment found
  | .schema found => schemaDefinition found
  | .type found => typeDefinition found
  | .directive found => directiveDefinition found
  | .schemaExtension found => schemaParts found
  | .typeExtension found => typeExtension found
  | .directiveExtension found => directiveExtension found

end Walk

def violations (document : Document) : List Violation :=
  let walk : Walk Unit := for one in document.definitions do Walk.definition one
  let ((), progress) := (walk.run (.ofDocument document)).run {}
  progress.violations.reverse

end FragmentImports.Schema
