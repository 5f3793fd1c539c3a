import FragmentImports.ModuleText.Pattern

/-!
Statements of a Python module, and whether a text is a module. The grammar is that of edition 3.11;
later editions also take type statements, type parameters, and texts between braces that repeat the
quotes around them.
-/

namespace FragmentImports.ModuleText

namespace Statement

open Reader

def changes : List Token :=
  [.mark "+=", .mark "-=", .mark "*=", .mark "@=", .mark "/=", .mark "%=", .mark "&=", .mark "|=",
   .mark "^=", .mark "<<=", .mark ">>=", .mark "**=", .mark "//="]

def dottedName : Reader Unit := do
  let _ ← Pattern.dottedName

def otherName : Reader Unit := do
  if ← acceptWord "as" then name

def importNames : Reader Unit := do
  let _ ← separated do
    dottedName
    otherName

def importedNames : Reader Unit := do
  let _ ← separated do
    name
    otherName

def importFrom : Reader Unit := do
  let dots ← steps (acceptAny [.mark ".", .mark "..."])
  if dots = 0 ∨ (← isAtName) then dottedName
  expectWord "import"
  if ← acceptMark "(" then
    importedNames
    let _ ← acceptMark ","
    expectMark ")"
  else unless ← acceptMark "*" do importedNames

def names : Reader Unit := do
  let _ ← separated name

section Parts

variable (expressions : Strength → Reader Shape)

def expression : Reader Unit := do
  let _ ← expressions .expression

def namedExpression : Reader Unit := do
  let _ ← Expression.namedExpression expressions

def starExpressions : Reader Unit := do
  let _ ← Expression.starExpressions expressions

def value : Reader Shape := do
  if ← acceptWord "yield" then
    Expression.yielded expressions
    return {}
  else Expression.starExpressions expressions

def assigned : Reader Unit := do
  let values ← many do
    if ← acceptMark "=" then some <$> value expressions
    else return none
  guard (values.dropLast.all Shape.target)

def expressionOrAssignment : Reader Unit := do
  let first ← value expressions
  if ← isAtMark "=" then
    guard first.target
    assigned expressions
  else if ← acceptMark ":" then
    guard first.typed
    expression expressions
    if ← acceptMark "=" then
      let _ ← value expressions
  else if ← acceptAny changes then
    guard first.single
    let _ ← value expressions

def deletion : Reader Unit := do
  let _ ← listed do guard (← expressions .primary).deletable

def simple : Reader Unit := do
  if ← acceptWord "import" then importNames
  else if ← acceptWord "from" then importFrom
  else if ← acceptAny [.keyword "pass", .keyword "break", .keyword "continue"] then pure ()
  else if ← acceptAny [.keyword "global", .keyword "nonlocal"] then names
  else if ← acceptWord "del" then deletion expressions
  else if ← acceptWord "return" then
    let _ ← optional (starExpressions expressions)
  else if ← acceptWord "raise" then
    if (← optional (expression expressions)).isSome then
      if ← acceptWord "from" then expression expressions
  else if ← acceptWord "assert" then
    expression expressions
    if ← acceptMark "," then expression expressions
  else expressionOrAssignment expressions

def line : Reader Unit := do
  simple expressions
  let _ ← steps do
    if (← acceptMark ";") && !(← isAt .newline) then
      simple expressions
      return true
    else return false
  expect .newline

def resource : Reader Unit := do
  expression expressions
  if ← acceptWord "as" then
    let _ ← Expression.target expressions

/-- What stands between `with` and its block; it may stand in parentheses, unless these belong to
the first expression. -/
def resources : Reader Unit := do
  let inParentheses ← optional do
    expectMark "("
    let _ ← listed (resource expressions)
    expectMark ")"
    expectMark ":"
  unless inParentheses.isSome do
    let _ ← separated (resource expressions)
    expectMark ":"

def decorator : Reader Bool := do
  if ← acceptMark "@" then
    namedExpression expressions
    expect .newline
    return true
  else return false

variable (patterns below : Reader Unit)

def untilDedent (item : Reader Unit) : Reader Unit := do
  item
  let _ ← steps do
    if ← accept .dedent then return false
    else
      item
      return true

def block : Reader Unit := do
  if ← accept .newline then
    expect .indent
    untilDedent below
  else line expressions

def body : Reader Unit := do
  expectMark ":"
  block expressions below

def branch (word : String) : Reader Bool := do
  if ← acceptWord word then
    body expressions below
    return true
  else return false

def conditional : Reader Unit := do
  namedExpression expressions
  body expressions below
  let _ ← steps do
    if ← acceptWord "elif" then
      namedExpression expressions
      body expressions below
      return true
    else return false
  let _ ← branch expressions below "else"

def loop : Reader Unit := do
  namedExpression expressions
  body expressions below
  let _ ← branch expressions below "else"

def iteration : Reader Unit := do
  Expression.targets expressions
  expectWord "in"
  starExpressions expressions
  body expressions below
  let _ ← branch expressions below "else"

def withResources : Reader Unit := do
  resources expressions
  block expressions below

def handler : Reader (Option Bool) := do
  if ← acceptWord "except" then
    let ofGroups ← acceptMark "*"
    if ofGroups ∨ !(← isAtMark ":") then
      expression expressions
      otherName
    body expressions below
    return some ofGroups
  else return none

def attempt : Reader Unit := do
  body expressions below
  let handlers ← many (handler expressions below)
  guard (handlers.all (some · = handlers.head?))
  unless handlers = [] do
    let _ ← branch expressions below "else"
  let final ← branch expressions below "finally"
  guard (handlers ≠ [] || final)

def functionDefinition : Reader Unit := do
  name
  expectMark "("
  Expression.parameters expressions true
  expectMark ")"
  if ← acceptMark "->" then expression expressions
  body expressions below

def classDefinition : Reader Unit := do
  name
  if ← acceptMark "(" then Expression.bases expressions
  body expressions below

def matchLine : Reader Unit := do
  expectWord "match"
  let (items, comma) ← listed (Expression.element expressions)
  guard (comma || !items.any Shape.starred)
  expectMark ":"
  expect .newline
  expect .indent

def caseBlock : Reader Unit := do
  expectWord "case"
  Pattern.sequenceOrSingle patterns
  if ← acceptWord "if" then namedExpression expressions
  body expressions below

def step : Reader Unit := do
  let decorators ← steps (decorator expressions)
  let concurrent ← acceptWord "async"
  if ← acceptWord "def" then functionDefinition expressions below
  else if !concurrent && (← isAtWord "class") then
    expectWord "class"
    classDefinition expressions below
  else
    guard (decorators = 0)
    if ← acceptWord "for" then iteration expressions below
    else if ← acceptWord "with" then withResources expressions below
    else
      guard !concurrent
      if ← acceptWord "if" then conditional expressions below
      else if ← acceptWord "while" then loop expressions below
      else if ← acceptWord "try" then attempt expressions below
      else if (← optional (matchLine expressions)).isSome then
        untilDedent (caseBlock expressions patterns below)
      else line expressions

def nested : (bound : Nat) → Reader Unit
  | 0, _ => none
  | bound + 1, tokens => step expressions patterns (nested bound) tokens

end Parts

def all (bound : Nat) : Reader Unit := do
  let expressions := Expression.nested bound
  let _ ← steps do
    if (← get) = [] then return false
    else
      nested expressions (Pattern.nested expressions bound) bound
      return true

end Statement

/-- Whether a text is a module. What is nested takes a character, so nothing is nested as deeply as
there are characters. -/
def isModule (text : List Char) : Bool :=
  (tokens? text).any (Reader.takesAll (Statement.all (text.length + 1)))

end FragmentImports.ModuleText
