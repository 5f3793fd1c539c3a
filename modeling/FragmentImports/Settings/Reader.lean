import FragmentImports.Json.Reader
import FragmentImports.Settings
import FragmentImports.Settings.Checked

/-!
Reading settings from JSON. Every key has two spellings; of a key given in both the camel case one
counts and the other is unknown.
-/

namespace FragmentImports.Settings

structure Key where
  camel : String
  snake : String
  deriving DecidableEq, Repr

abbrev Members := List (String × Json)

namespace Key

/-- The value of a key and the spelling under which it is found. -/
def find? (key : Key) (members : Members) : Option (String × Json) :=
  match Json.lookup? members key.camel with
  | some value => some (key.camel, value)
  | none => (Json.lookup? members key.snake).map fun value => (key.snake, value)

def readOr {α : Type} (key : Key) (place : List Step) (members : Members) (default : Checked α)
    (read : List Step → Json → Checked α) : Checked α :=
  match key.find? members with
  | some (spelling, value) => read (place ++ [.key spelling]) value
  | none => default

def require {α : Type} (key : Key) (place : List Step) (members : Members)
    (read : List Step → Json → Checked α) : Checked α :=
  key.readOr place members (.invalid [⟨place ++ [.key key.camel], .missing⟩]) read

end Key

/-- An issue for every key of a member that no known key takes. -/
def unknownKeys (keys : List Key) (place : List Step) (members : Members) : List Issue :=
  let taken := keys.filterMap fun key => (key.find? members).map Prod.fst
  ((Json.lastMembers members).filter fun member => member.1 ∉ taken).map fun member =>
    ⟨place ++ [.key member.1], .unknownKey⟩

def readText (place : List Step) : Json → Checked String
  | .string text => .valid text
  | _ => .invalid [⟨place, .notText⟩]

def readOptionalText (place : List Step) : Json → Checked (Option String)
  | .null => .valid none
  | value => (readText place value).map some

def trueWords : List String := ["1", "on", "t", "true", "y", "yes"]

def falseWords : List String := ["0", "off", "f", "false", "n", "no"]

def booleanOfWord (place : List Step) (word : String) : Checked Bool :=
  let lower := word.map Char.toLower
  if lower ∈ trueWords then .valid true
  else if lower ∈ falseWords then .valid false
  else .invalid [⟨place, .unknownBoolean⟩]

def isWord (value : Int) : Bool := -0x8000000000000000 ≤ value && value < 0x8000000000000000

def booleanOfInteger (place : List Step) (isShort : Bool) (value : Int) : Checked Bool :=
  if value = 0 then .valid false
  else if value = 1 then .valid true
  else if isShort then .invalid [⟨place, .unknownBoolean⟩]
  else .invalid [⟨place, .notBoolean⟩]

/-- The least number of 64 bits is taken when it is written without a point only. -/
def readBoolean (place : List Step) : Json → Checked Bool
  | .boolean value => .valid value
  | .integer value => booleanOfInteger place (isWord value) value
  | .float value => match value.toInt? with
      | some whole => booleanOfInteger place (isWord whole && isWord (-whole)) whole
      | none => .invalid [⟨place, .notBoolean⟩]
  | .string word => booleanOfWord place word
  | _ => .invalid [⟨place, .notBoolean⟩]

def readMode (place : List Step) : Json → Checked DocumentMode
  | .string text => match DocumentMode.ofString? text with
      | some mode => .valid mode
      | none => .invalid [⟨place, .unknownMode⟩]
  | _ => .invalid [⟨place, .unknownMode⟩]

namespace Keys

def name : Key := ⟨"name", "name"⟩
def emitsDocumentValue : Key := ⟨"emitsDocumentValue", "emits_document_value"⟩
def plugins : Key := ⟨"plugins", "plugins"⟩
def documentMode : Key := ⟨"documentMode", "document_mode"⟩
def typesPrefix : Key := ⟨"typesPrefix", "types_prefix"⟩
def typesSuffix : Key := ⟨"typesSuffix", "types_suffix"⟩
def dedupeOperationSuffix : Key := ⟨"dedupeOperationSuffix", "dedupe_operation_suffix"⟩
def omitOperationSuffix : Key := ⟨"omitOperationSuffix", "omit_operation_suffix"⟩
def fragmentVariablePrefix : Key := ⟨"fragmentVariablePrefix", "fragment_variable_prefix"⟩
def fragmentVariableSuffix : Key := ⟨"fragmentVariableSuffix", "fragment_variable_suffix"⟩
def transformUnderscore : Key := ⟨"transformUnderscore", "transform_underscore"⟩
def extension : Key := ⟨"extension", "extension"⟩
def folder : Key := ⟨"folder", "folder"⟩
def baseTypesPath : Key := ⟨"baseTypesPath", "base_types_path"⟩

def ofPlugin : List Key := [name, emitsDocumentValue]

def ofSettings : List Key :=
  [plugins, documentMode, typesPrefix, typesSuffix, dedupeOperationSuffix, omitOperationSuffix,
   fragmentVariablePrefix, fragmentVariableSuffix, transformUnderscore, extension, folder,
   baseTypesPath]

end Keys

def readPlugin (place : List Step) : Json → Checked Plugin
  | .object members =>
      (Plugin.mk
        <$> Keys.name.require place members readText
        <*> Keys.emitsDocumentValue.readOr place members (.valid false) readBoolean).andIssues
          (unknownKeys Keys.ofPlugin place members)
  | _ => .invalid [⟨place, .notObject⟩]

def readPlugins (place : List Step) : Json → Checked (List Plugin)
  | .array items =>
      Checked.each (fun position item => readPlugin (place ++ [.index position]) item) 0 items
  | _ => .invalid [⟨place, .notList⟩]

def readNaming (members : Members) : Checked NamingConvention :=
  let text (key : Key) (default : String) := key.readOr [] members (.valid default) readText
  let flag (key : Key) := key.readOr [] members (.valid false) readBoolean
  NamingConvention.mk
    <$> text Keys.typesPrefix ""
    <*> text Keys.typesSuffix ""
    <*> flag Keys.dedupeOperationSuffix
    <*> flag Keys.omitOperationSuffix
    <*> text Keys.fragmentVariablePrefix ""
    <*> text Keys.fragmentVariableSuffix "FragmentDoc"
    <*> flag Keys.transformUnderscore

def readLayout (members : Members) : Checked OutputLayout :=
  OutputLayout.mk
    <$> Keys.extension.readOr [] members (.valid "_generated.py") readText
    <*> Keys.folder.readOr [] members (.valid "") readText

def readMembers (members : Members) : Checked Settings :=
  (Settings.mk
    <$> Keys.plugins.readOr [] members (.valid []) readPlugins
    <*> Keys.documentMode.readOr [] members (.valid .graphQLTag) readMode
    <*> readNaming members
    <*> readLayout members
    <*> Keys.baseTypesPath.readOr [] members (.valid none) readOptionalText).andIssues
      (unknownKeys Keys.ofSettings [] members)

def ofJson : Json → Except (List Issue) Settings
  | .object members => (readMembers members).toExcept
  | _ => .error [⟨[], .notObject⟩]

/-- The JSON of settings nests at most 200 levels deep, and what stands in front of the point of a
number has at most 4300 characters. -/
def dialect : Json.Dialect where
  depth := 200
  loneHalves := false
  fits negative _ digits := digits + (if negative then 1 else 0) ≤ 4300

def ofText (text : String) : Except (List Issue) Settings :=
  match Json.parse dialect text with
  | .ok value => ofJson value
  | .error _ => .error [⟨[], .invalidJson⟩]

def issuesHeading (issues : List Issue) : String :=
  let noun := if issues.length = 1 then " validation error" else " validation errors"
  toString issues.length ++ noun ++ " for GeneratorConfig"

end FragmentImports.Settings
