import FragmentImports.Document.Cursor
import FragmentImports.Document.Definition

/-!
Reading GraphQL documents and type references. Selection sets, lists and objects inside one another
count together, and so do the list marks of a type; `room` is the number that may still be opened.
-/

namespace FragmentImports.Document.Reader

def nestingLimit : Nat := 200

def tooDeep {α : Type} : Reader α := do fail (← current).offset .tooDeep

def namedType : Reader String := name

def markedNonNull (type : TypeReference) : Reader TypeReference := do
  if ← acceptMark "!" then return .nonNull type else return type

def typeWithin : (room : Nat) → Reader TypeReference
  | 0 => do
      if ← acceptMark "[" then tooDeep
      markedNonNull (.named (← namedType))
  | room + 1 => do
      if ← acceptMark "[" then
        let item ← typeWithin room
        expectMark "]"
        markedNonNull (.list item)
      else markedNonNull (.named (← namedType))

def typeReference : Reader TypeReference := typeWithin nestingLimit

def variableReference : Reader String := do
  expectMark "$"
  name

def refusedVariable {α : Type} : Reader α := do
  let start ← current
  expectMark "$"
  let found ← current
  match found.kind, found.value? with
  | .name, some name => fail start.offset (.variableInConstant name)
  | _, _ => unexpectedToken start

def wordValue (word : String) : Scalar :=
  if word = "true" then .boolean true
  else if word = "false" then .boolean false
  else if word = "null" then .null
  else .enum word

def scalar (constant : Bool) : Reader Scalar := do
  let found ← current
  let text := found.value?.getD ""
  let take (leaf : Scalar) : Reader Scalar := do
    advance
    return leaf
  match found.kind with
  | .integer => take (.integer text)
  | .float => take (.float text)
  | .string => take (.string text false)
  | .blockString => take (.string text true)
  | .name => take (wordValue text)
  | .mark "$" => if constant then refusedVariable else Scalar.reference <$> variableReference
  | _ => unexpected

def valueWithin (constant : Bool) : (room : Nat) → Reader Value
  | 0 => do
      if (← isAtMark "[") || (← isAtMark "\x7b") then tooDeep
      return .scalar (← scalar constant)
  | room + 1 => do
      if ← isAtMark "[" then
        return .list (← between "[" (valueWithin constant room) "]")
      if ← isAtMark "\x7b" then
        let field : Reader (String × Value) := do
          let key ← name
          expectMark ":"
          return (key, ← valueWithin constant room)
        return .object (← between "\x7b" field "\x7d")
      return .scalar (← scalar constant)

def constantValue : Reader Value := valueWithin true nestingLimit

def argument (constant : Bool) (room : Nat) : Reader (Argument × Nat) := do
  let key ← name
  expectMark ":"
  let start ← current
  return (⟨key, ← valueWithin constant room⟩, start.offset)

def arguments (constant : Bool) (room : Nat) : Reader (List (Argument × Nat)) :=
  optionalBetween "(" (argument constant room) ")"

def directive (constant : Bool) (room : Nat) : Reader Directive := do
  let start ← current
  expectMark "@"
  let called ← name
  let given ← arguments constant room
  noteDirective ⟨start.offset, given.map Prod.snd⟩
  return ⟨called, given.map Prod.fst⟩

def directivesWithin (constant : Bool) (room : Nat) : Reader (List Directive) := do
  whileAt "@" (directive constant room) (← remaining)

def directives (constant : Bool) : Reader (List Directive) := directivesWithin constant nestingLimit

/-- The name of a fragment, which cannot be the word that starts a type condition. -/
def fragmentName : Reader String := do
  if (← current).value? = some "on" then unexpected
  name

def fieldWithin (room : Nat) (inner : Reader (List Selection)) : Reader Selection := do
  let first ← name
  let renamed ← acceptMark ":"
  let called ← if renamed then name else pure first
  let given ← arguments false room
  let marked ← directivesWithin false room
  let selections? ← if ← isAtMark "\x7b" then some <$> inner else pure none
  let alias? := if renamed then some first else none
  return .field alias? called (given.map Prod.fst) marked selections?

def spreadWithin (room : Nat) (inner : Reader (List Selection)) : Reader Selection := do
  expectMark "..."
  let conditioned ← acceptKeyword "on"
  if !conditioned && (← isAt .name) then
    let fragment ← fragmentName
    return .spread fragment (← directivesWithin false room)
  let condition? ← if conditioned then some <$> namedType else pure none
  let marked ← directivesWithin false room
  return .inline condition? marked (← inner)

/-- A selection set where `room` counts the set itself. -/
def selectionsWithin : (room : Nat) → Reader (List Selection)
  | 0 => tooDeep
  | room + 1 => do
      let inner := selectionsWithin room
      let selection : Reader Selection := do
        if ← isAtMark "..." then spreadWithin room inner else fieldWithin room inner
      between "\x7b" selection "\x7d"

def selectionSet : Reader (List Selection) := selectionsWithin nestingLimit

def description? : Reader (Option Description) := do
  let found ← current
  let text := found.value?.getD ""
  match found.kind with
  | .string =>
      advance
      return some ⟨text, false⟩
  | .blockString =>
      advance
      return some ⟨text, true⟩
  | _ => return none

def operationKind : Reader OperationKind := do
  let found ← expect .name
  match OperationKind.ofKeyword? (found.value?.getD "") with
  | some kind => return kind
  | none => unexpectedToken found

def defaultValue? : Reader (Option Value) := do
  if ← acceptMark "=" then some <$> constantValue else return none

def variableDefinition : Reader VariableDefinition := do
  let description? ← description?
  let name ← variableReference
  expectMark ":"
  let type ← typeReference
  let default? ← defaultValue?
  return ⟨description?, name, type, default?, ← directives true⟩

def operation : Reader Operation := do
  let description? ← description?
  let kind ← operationKind
  let name? ← if ← isAt .name then some <$> name else pure none
  let declared ← optionalBetween "(" variableDefinition ")"
  let marked ← directives false
  return ⟨description?, kind, name?, declared, marked, ← selectionSet⟩

def shorthandQuery : Reader Operation := do
  return ⟨none, .query, none, [], [], ← selectionSet⟩

def fragment : Reader Fragment := do
  let description? ← description?
  expectKeyword "fragment"
  let name ← fragmentName
  expectKeyword "on"
  let onType ← namedType
  let marked ← directives false
  return ⟨description?, name, onType, marked, ← selectionSet⟩

def inputValue : Reader InputValue := do
  let description? ← description?
  let name ← name
  expectMark ":"
  let type ← typeReference
  let default? ← defaultValue?
  return ⟨description?, name, type, default?, ← directives true⟩

def fieldDefinition : Reader FieldDefinition := do
  let description? ← description?
  let name ← name
  let arguments ← optionalBetween "(" inputValue ")"
  expectMark ":"
  let type ← typeReference
  return ⟨description?, name, arguments, type, ← directives true⟩

def enumValue : Reader EnumValue := do
  let description? ← description?
  let found ← current
  if found.value?.any (· ∈ ["true", "false", "null"]) then
    fail found.offset (.reservedEnumValue found)
  let name ← name
  return ⟨description?, name, ← directives true⟩

def interfaces : Reader (List String) := do
  if ← acceptKeyword "implements" then separated "&" namedType else return []

def fields : Reader (List FieldDefinition) := optionalBetween "\x7b" fieldDefinition "\x7d"

def typeKeywords : List String := ["scalar", "type", "interface", "union", "enum", "input"]

def typeDefinition (description? : Option Description) (keyword : String) :
    Reader TypeDefinition := do
  expectKeyword keyword
  let name ← name
  match keyword with
  | "type" =>
      let interfaces ← interfaces
      let marked ← directives true
      return ⟨description?, name, marked, .object interfaces (← fields)⟩
  | "interface" =>
      let interfaces ← interfaces
      let marked ← directives true
      return ⟨description?, name, marked, .interface interfaces (← fields)⟩
  | "union" =>
      let marked ← directives true
      let members ← if ← acceptMark "=" then separated "|" namedType else pure []
      return ⟨description?, name, marked, .union members⟩
  | "enum" =>
      let marked ← directives true
      return ⟨description?, name, marked, .enum (← optionalBetween "\x7b" enumValue "\x7d")⟩
  | "input" =>
      let marked ← directives true
      return ⟨description?, name, marked,
        .inputObject (← optionalBetween "\x7b" inputValue "\x7d")⟩
  | _ => return ⟨description?, name, ← directives true, .scalar⟩

def rootOperation : Reader RootOperation := do
  let kind ← operationKind
  expectMark ":"
  return ⟨kind, ← namedType⟩

def schemaDefinition : Reader SchemaDefinition := do
  let description? ← description?
  expectKeyword "schema"
  let marked ← directives true
  return ⟨description?, marked, ← someBetween "\x7b" rootOperation "\x7d"⟩

def executableLocations : List String :=
  ["QUERY", "MUTATION", "SUBSCRIPTION", "FIELD", "FRAGMENT_DEFINITION", "FRAGMENT_SPREAD",
   "INLINE_FRAGMENT", "VARIABLE_DEFINITION", "FRAGMENT_VARIABLE_DEFINITION"]

def typeSystemLocations : List String :=
  ["SCHEMA", "SCALAR", "OBJECT", "FIELD_DEFINITION", "ARGUMENT_DEFINITION", "INTERFACE", "UNION",
   "ENUM", "ENUM_VALUE", "INPUT_OBJECT", "INPUT_FIELD_DEFINITION", "DIRECTIVE_DEFINITION"]

def directiveLocation : Reader String := do
  let start ← current
  let location ← name
  if location ∈ executableLocations ++ typeSystemLocations then return location
  unexpectedToken start

def directiveDefinition : Reader DirectiveDefinition := do
  let description? ← description?
  expectKeyword "directive"
  expectMark "@"
  let name ← name
  let arguments ← optionalBetween "(" inputValue ")"
  let marked ← directives true
  let repeatable ← acceptKeyword "repeatable"
  expectKeyword "on"
  return ⟨description?, name, arguments, marked, repeatable, ← separated "|" directiveLocation⟩

def schemaExtension : Reader Definition := do
  expectKeyword "extend"
  expectKeyword "schema"
  let marked ← directives true
  let operations ← optionalBetween "\x7b" rootOperation "\x7d"
  if marked = [] ∧ operations = [] then unexpected
  return .schemaExtension ⟨none, marked, operations⟩

def addsNothing (extension : TypeDefinition) : Bool :=
  extension.directives.isEmpty && match extension.body with
    | .scalar => true
    | .object interfaces fields => interfaces.isEmpty && fields.isEmpty
    | .interface interfaces fields => interfaces.isEmpty && fields.isEmpty
    | .union members => members.isEmpty
    | .enum values => values.isEmpty
    | .inputObject fields => fields.isEmpty

def typeExtension (keyword : String) : Reader Definition := do
  expectKeyword "extend"
  let extension ← typeDefinition none keyword
  if addsNothing extension then unexpected
  return .typeExtension extension

def directiveExtension : Reader Definition := do
  expectKeyword "extend"
  expectKeyword "directive"
  expectMark "@"
  let name ← name
  let marked ← directives true
  if marked = [] then unexpected
  return .directiveExtension ⟨name, marked⟩

def extension : Reader Definition := do
  let found ← following
  let word := found.value?.getD ""
  if found.kind = .name && word = "schema" then schemaExtension
  else if found.kind = .name && word = "directive" then directiveExtension
  else if found.kind = .name && typeKeywords.contains word then typeExtension word
  else unexpectedToken found

def definition : Reader Definition := do
  if ← isAtMark "\x7b" then return .operation (← shorthandQuery)
  let start ← current
  let described := start.kind = .string || start.kind = .blockString
  let keyword ← if described then following else pure start
  if described && keyword.kind = .mark "\x7b" then fail start.offset .describedShorthand
  if keyword.kind ≠ .name then unexpectedToken keyword
  let word := keyword.value?.getD ""
  if (OperationKind.ofKeyword? word).isSome then return .operation (← operation)
  if word = "fragment" then return .fragment (← fragment)
  if word = "schema" then return .schema (← schemaDefinition)
  if word = "directive" then return .directive (← directiveDefinition)
  if typeKeywords.contains word then
    let description? ← description?
    return .type (← typeDefinition description? word)
  if described then fail start.offset .describedOther
  if word = "extend" then extension else unexpectedToken keyword

/-- A definition with the places of the directives in it, in the order of the text. -/
structure Placed where
  definition : Definition
  directives : List DirectivePlace
  deriving DecidableEq, Repr

def definitions : (bound : Nat) → Reader (List Placed)
  | 0 => unexpected
  | bound + 1 => do
      let read ← definition
      let first : Placed := ⟨read, ← takeDirectives⟩
      if ← isAt .endOfInput then return [first]
      return first :: (← definitions bound)

end FragmentImports.Document.Reader

namespace FragmentImports.Document

def parsePlaced (text : String) : Except SyntaxError (List Reader.Placed) :=
  Reader.run (do Reader.definitions (← Reader.remaining)) text

def parse (text : String) : Except SyntaxError Document :=
  (parsePlaced text).map fun placed => ⟨placed.map Reader.Placed.definition⟩

def Value.parse (text : String) : Except SyntaxError Value :=
  let whole : Reader Value := do
    let value ← Reader.constantValue
    let _ ← Reader.expect .endOfInput
    return value
  whole.run text

def TypeReference.parse (text : String) : Except SyntaxError TypeReference :=
  let whole : Reader TypeReference := do
    let type ← Reader.typeReference
    let _ ← Reader.expect .endOfInput
    return type
  whole.run text

end FragmentImports.Document
