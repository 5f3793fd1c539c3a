import FragmentImports.Document.Parser
import FragmentImports.Json
import FragmentImports.Schema

/-!
Schemas from the descriptions that endpoints give of them. All types are built first, then the root
types and the directives are looked at, and at last what the types hold, in the order of the types.
-/

namespace FragmentImports.Schema

open Document (SyntaxError TypeReference)

inductive NameFault where
  | empty
  | letter (name : String)
  | start (name : String)
  deriving DecidableEq, Repr

namespace NameFault

def message : NameFault → String
  | empty => "Expected name to be a non-empty string."
  | letter name => "Names must only contain [_a-zA-Z0-9] but " ++ quoted name ++ " does not."
  | start name => "Names must start with [_a-zA-Z] but " ++ quoted name ++ " does not."

def of? (name : String) : Option NameFault :=
  match name.toList with
  | [] => some .empty
  | first :: rest =>
      if !rest.all Document.isNameContinue then some (.letter name)
      else if !Document.isNameStart first then some (.start name)
      else none

end NameFault

inductive DescriptionFault where
  | missing
  | notObject
  /-- A value or a type is none of those that may stand at its place. -/
  | unsuitable
  | badName (fault : NameFault)
  | notParsed (error : SyntaxError)
  /-- The fields of a type cannot be built for a cause that is told by its message. -/
  | fields (type cause : String)
  deriving DecidableEq, Repr

namespace DescriptionFault

def message? : DescriptionFault → Option String
  | badName fault => some fault.message
  | notParsed error => some error.report
  | fields type cause => some (type ++ " fields cannot be resolved. " ++ cause)
  | _ => none

end DescriptionFault

namespace Description

abbrev Members := List (String × Json)

abbrev Check := Except DescriptionFault

def member (members : Members) (name : String) : Json :=
  (Json.lookup? members name).getD .null

def required : Json → String → Check Json
  | .object members, name =>
      match Json.lookup? members name with
      | some value => .ok value
      | none => .error .missing
  | _, _ => .error .unsuitable

def membersOf : Json → Check Members
  | .object members => .ok members
  | _ => .error .notObject

def elements : Json → Check (List Json)
  | .array items => .ok items
  | .object members => .ok (members.map fun member => .string member.1)
  | .string text => .ok (text.toList.map fun c => .string c.toString)
  | _ => .error .unsuitable

def checkedName : Json → Check String
  | .string name =>
      match NameFault.of? name with
      | none => .ok name
      | some fault => .error (.badName fault)
  | _ => .error .unsuitable

inductive Kind where
  | scalar
  | object
  | interface
  | union
  | enum
  | inputObject
  deriving DecidableEq, Repr

namespace Kind

def ofJson? : Json → Option Kind
  | .string "SCALAR" => some scalar
  | .string "OBJECT" => some object
  | .string "INTERFACE" => some interface
  | .string "UNION" => some union
  | .string "ENUM" => some enum
  | .string "INPUT_OBJECT" => some inputObject
  | _ => none

def isInput : Kind → Bool
  | scalar | enum | inputObject => true
  | _ => false

def isOutput : Kind → Bool
  | inputObject => false
  | _ => true

end Kind

def standardKind? (name : String) : Option Kind :=
  if specifiedScalars.contains name then some .scalar
  else (introspectionTypes.find? fun standard => standard.1 = name).map fun standard =>
    match standard.2 with
    | .leaf => .enum
    | _ => .object

def isStandard (name : String) : Bool := standardTypeNames.contains name

structure DescribedType where
  kind : Kind
  members : Members

def checkEnumValues (description : Json) : Check Unit := do
  for value in ← elements description do
    match ← required value "name" with
    | .array _ | .object _ => throw .unsuitable
    | _ => pure ()

def neededMember? : Kind → Option String
  | .union => some "possibleTypes"
  | .enum => some "enumValues"
  | .inputObject => some "inputFields"
  | _ => none

/-- Standard types keep their kind, and other kinds cannot take their names. -/
def mayBeStandard : Kind → Bool
  | .scalar | .object | .enum => true
  | _ => false

def describedType (description : Json) : Check (String × DescribedType) := do
  let nameValue ← required description "name"
  let members ← membersOf description
  let some kind := Kind.ofJson? (member members "kind") | throw .unsuitable
  if let some needed := neededMember? kind then
    if let .null := member members needed then throw .unsuitable
  if let .string name := nameValue then
    if isStandard name then
      if mayBeStandard kind then
        return (name, ⟨(standardKind? name).getD kind, members⟩)
      throw .unsuitable
  if kind = .enum then checkEnumValues (member members "enumValues")
  return (← checkedName nameValue, ⟨kind, members⟩)

abbrev Types := OrderedMap String DescribedType

def knownKind (types : Types) : Json → Check (String × Kind)
  | .string name =>
      match types.get? name with
      | some type => .ok (name, type.kind)
      | none => .error .unsuitable
  | _ => .error .unsuitable

def reference (types : Types) : Json → Check (TypeReference × Kind)
  | .object members =>
      let kind := (Json.lookup? members "kind").getD .null
      if kind == .string "LIST" || kind == .string "NON_NULL" then
        match _found : Json.lookup? members "ofType" with
        | none => .error .unsuitable
        | some inner =>
            if inner.isEmpty then .error .unsuitable
            else do
              let (type, named) ← reference types inner
              if kind == .string "LIST" then return (.list type, named)
              else if type.isNonNull then throw .unsuitable
              else return (.nonNull type, named)
      else do
        let (name, kind) ← knownKind types ((Json.lookup? members "name").getD .null)
        return (.named name, kind)
  | _ => .error .notObject
termination_by description => sizeOf description
decreasing_by
  have below := Json.sizeOf_lookup? _found
  simp only [Json.object.sizeOf_spec]
  omega

def namedReference (types : Types) (wanted : Kind) (description : Json) : Check String := do
  match ← reference types description with
  | (.named name, kind) => if kind = wanted then return name else throw .unsuitable
  | _ => throw .unsuitable

def namedReferences (types : Types) (wanted : Kind) (description : Json) : Check (List String) := do
  (← elements description).mapM (namedReference types wanted)

/-- An argument or an input field; its default value has to be the text of a value. -/
def checkInput (types : Types) (description : Json) : Check Json := do
  let name ← required description "name"
  let (_, kind) ← reference types (← required description "type")
  unless kind.isInput do throw .unsuitable
  match member (← membersOf description) "defaultValue" with
  | .null => pure ()
  | .string text => let _ ← (Document.Value.parse text).mapError .notParsed
  | _ => throw .unsuitable
  return name

def checkInputs (types : Types) (description : Json) : Check (List Json) := do
  (← elements description).mapM (checkInput types)

def checkNames (names : List Json) : Check Unit := names.forM fun name => discard (checkedName name)

def checkField (types : Types) (description : Json) : Check Json := do
  let name ← required description "name"
  let (_, kind) ← reference types (← required description "type")
  unless kind.isOutput do throw .unsuitable
  match member (← membersOf description) "args" with
  | .null => throw .unsuitable
  | arguments => checkNames (← checkInputs types arguments)
  return name

def asFieldFault (type : String) : DescriptionFault → DescriptionFault
  | .badName fault => .fields type fault.message
  | .notParsed error => .fields type error.report
  | .fields inner cause => .fields type (inner ++ " fields cannot be resolved. " ++ cause)
  | _ => .unsuitable

def checkFields (types : Types) (name : String) (members : Members) : Check Unit := do
  let read : Check (List Json) := match member members "fields" with
    | .null => .error .unsuitable
    | fields => do (← elements fields).mapM (checkField types)
  checkNames (← read.mapError (asFieldFault name))

def checkInputFields (types : Types) (name : String) (members : Members) : Check Unit := do
  checkNames (← (checkInputs types (member members "inputFields")).mapError (asFieldFault name))

def interfaces (types : Types) (kind : Kind) (members : Members) : Check (List String) :=
  match member members "interfaces" with
  | .null => if kind = .interface then .ok [] else .error .unsuitable
  | description => (namedReferences types .interface description).mapError fun _ => .unsuitable

def schemaType (types : Types) (name : String) (type : DescribedType) : Check SchemaType :=
  match standardTypes.find? fun standard => standard.1 = name with
  | some standard => .ok standard.2
  | none => do
      match type.kind with
      | .scalar | .enum => return .leaf
      | .inputObject =>
          checkInputFields types name type.members
          return .leaf
      | .union =>
          let members := namedReferences types .object (member type.members "possibleTypes")
          return .union (← members.mapError fun _ => .unsuitable)
      | .interface =>
          let _ ← interfaces types .interface type.members
          checkFields types name type.members
          return .interface
      | .object =>
          let listed ← interfaces types .object type.members
          checkFields types name type.members
          return .object listed

def directiveLocations : List String :=
  Document.Reader.executableLocations ++ Document.Reader.typeSystemLocations

def checkDirective (types : Types) (description : Json) : Check Unit := do
  let members ← membersOf description
  if let .null := member members "args" then throw .unsuitable
  if let .null := member members "locations" then throw .unsuitable
  let name ← required description "name"
  let locations ← elements (member members "locations")
  let arguments ← checkInputs types (member members "args")
  let _ ← checkedName name
  unless locations.all (fun
      | .string location => directiveLocations.contains location
      | _ => false) do
    throw .unsuitable
  checkNames arguments

def checkRoot (types : Types) (description : Json) : Check Unit :=
  match description with
  | .null => .ok ()
  | _ => discard (namedReference types .object description)

end Description

open Description in
def ofDescription (data : Json) : Except DescriptionFault Schema := do
  let .object outer := data | throw .unsuitable
  let .object members := member outer "__schema" | throw .unsuitable
  let described ← elements (← required (.object members) "types")
  let types : Types := .ofList (← described.mapM describedType)
  for root in ["queryType", "mutationType", "subscriptionType"] do
    checkRoot types (member members root)
  let directives := member members "directives"
  unless directives.isEmpty do
    for directive in ← elements directives do checkDirective types directive
  let built ← types.entries.mapM fun (name, type) => do
    return (name, ← schemaType types name type)
  return ⟨.ofList (built ++ ("String", .leaf) :: ("Boolean", .leaf) :: introspectionTypes)⟩

end FragmentImports.Schema
