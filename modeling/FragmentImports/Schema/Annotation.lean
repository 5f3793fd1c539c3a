import FragmentImports.Document.Parser
import FragmentImports.Document.Value.Printer
import FragmentImports.Schema

/-!
Annotations: the reasons of deprecations and the addresses that specify scalars, which have to be
texts. Scalars are looked at first, then directives, then the fields of types.
-/

namespace FragmentImports.Schema

open Document

inductive AnnotationCause where
  | absent
  | notText (value : Value)
  deriving DecidableEq, Repr

structure AnnotationError where
  owner? : Option String
  argument : String
  cause : AnnotationCause
  location? : Option Location
  source : String
  deriving DecidableEq, Repr

namespace AnnotationError

def statement (error : AnnotationError) : String :=
  let subject := "Argument '" ++ error.argument ++ "' "
  match error.cause with
  | .absent => subject ++ "of required type 'String!' was not provided."
  | .notText (.scalar .null) =>
      subject ++ "has invalid value: Expected value of non-null type 'String!' not to be None."
  | .notText value =>
      subject ++ "has invalid value: String cannot represent a non string value: " ++ value.render

def report (error : AnnotationError) : String :=
  let place := (error.location?.map (placeReport error.source)).getD ""
  let owner := (error.owner?.map (· ++ " fields cannot be resolved. ")).getD ""
  owner ++ error.statement ++ place

end AnnotationError

abbrev DirectiveUse := Directive × DirectivePlace

/-- The directives of several parts with their places; both are in the order of the text. -/
def placeDirectives : List (List Directive) → List DirectivePlace → List (List DirectiveUse)
  | [], _ => []
  | part :: rest, places => part.zip places :: placeDirectives rest (places.drop part.length)

structure TextArgument where
  directive : String
  argument : String
  isRequired : Bool

def deprecationReason : TextArgument := ⟨"deprecated", "reason", false⟩

def specificationAddress : TextArgument := ⟨"specifiedBy", "url", true⟩

def textFault? (wanted : TextArgument) (use : DirectiveUse) :
    Option (AnnotationCause × Option Nat) :=
  match (use.1.arguments.zip use.2.values).find? fun given => given.1.name = wanted.argument with
  | none => if wanted.isRequired then some (.absent, some use.2.offset) else none
  | some (given, offset) =>
      match given.value with
      | .scalar (.string ..) => none
      | .scalar leaf => some (.notText (.scalar leaf), some offset)
      | value => some (.notText value, none)

/-- What is wrong with the annotation of a part; only the first of its kind counts. -/
def partFault? (text : String) (owner? : Option String) (wanted : TextArgument)
    (part : List DirectiveUse) : Option AnnotationError := do
  let use ← part.find? fun use => use.1.name = wanted.directive
  let (cause, offset?) ← textFault? wanted use
  return ⟨owner?, wanted.argument, cause, offset?.map (locate · 1 1 text.toList), text⟩

def annotatedParts : TypeBody → List (List Directive)
  | .object _ fields | .interface _ fields => fields.flatMap fun field =>
      field.arguments.map InputValue.directives ++ [field.directives]
  | .inputObject fields => fields.map InputValue.directives
  | _ => []

def annotationError? (text : String) (definitions : List Reader.Placed) :
    Option AnnotationError :=
  let types := definitions.filterMap fun placed => match placed.definition with
    | .type definition =>
        if standardTypeNames.contains definition.name then none
        else some (definition, placed.directives)
    | _ => none
  let scalarError? := types.findSome? fun (definition, places) => match definition.body with
    | .scalar => partFault? text none specificationAddress (definition.directives.zip places)
    | _ => none
  let directiveError? := definitions.findSome? fun placed => match placed.definition with
    | .directive definition =>
        let parts := definition.arguments.map InputValue.directives ++ [definition.directives]
        (placeDirectives parts placed.directives).findSome? (partFault? text none deprecationReason)
    | _ => none
  let bodiesOf (name : String) : List (TypeDefinition × List DirectivePlace) :=
    definitions.filterMap fun placed => match placed.definition with
      | .typeExtension extension =>
          if extension.name = name then some (extension, placed.directives) else none
      | _ => none
  let fieldError? := types.findSome? fun (definition, places) =>
    ((definition, places) :: bodiesOf definition.name).findSome? fun (body, places) =>
      let members := places.drop body.directives.length
      (placeDirectives (annotatedParts body.body) members).findSome?
        (partFault? text (some definition.name) deprecationReason)
  scalarError? <|> directiveError? <|> fieldError?

end FragmentImports.Schema
