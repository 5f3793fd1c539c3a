import FragmentImports.ModuleText.Formatted
import FragmentImports.ModuleText.Lexer
import FragmentImports.ModuleText.Parameter

/-!
Expressions of a Python module. What stands in brackets, behind a `lambda` or behind an `else` is
read by `below`, a reader of expressions that are nested less deeply.
-/

namespace FragmentImports.ModuleText

/-- What an expression may be used for. -/
structure Shape where
  target : Bool := false
  single : Bool := false
  typed : Bool := false
  deletable : Bool := false
  starred : Bool := false
  deriving DecidableEq, Repr

namespace Shape

def place : Shape := { target := true, single := true, typed := true, deletable := true }

def ofItems (items : List Shape) : Shape :=
  { target := items.all Shape.target, deletable := items.all Shape.deletable }

/-- Items of which a single one is meant unless there is a comma. -/
def ofListed : List Shape × Bool → Shape
  | ([item], false) => item
  | (items, _) => ofItems items

def spread (item : Shape) : Shape := { target := item.target, starred := true }

end Shape

inductive Strength where
  | primary
  | arithmetic
  | logical
  | expression
  deriving DecidableEq, Repr

namespace Expression

open Reader

def signs : List Token := [.mark "+", .mark "-", .mark "~"]

def operators : List Token :=
  [.mark "|", .mark "^", .mark "&", .mark "<<", .mark ">>", .mark "+", .mark "-", .mark "*",
   .mark "/", .mark "//", .mark "%", .mark "@", .mark "**"]

def comparisonMarks : List Token :=
  [.mark "==", .mark "!=", .mark "<=", .mark "<", .mark ">=", .mark ">", .keyword "in"]

def acceptComparison : Reader Bool := do
  if ← acceptAny comparisonMarks then return true
  else if ← acceptWord "is" then
    let _ ← acceptWord "not"
    return true
  else if ← acceptWord "not" then
    expectWord "in"
    return true
  else return false

def isAtComprehension : Reader Bool := do return (← isAtWord "for") || (← isAtWord "async")

section Parts

variable (below : Strength → Reader Shape)

def namedExpression : Reader Shape := do
  if ← acceptNameAnd ":=" then
    let _ ← below .expression
    return {}
  else below .expression

def element : Reader Shape := do
  if ← acceptMark "*" then return (← below .arithmetic).spread
  else namedExpression below

def starExpression : Reader Shape := do
  if ← acceptMark "*" then return (← below .arithmetic).spread
  else below .expression

def starExpressions : Reader Shape := do return .ofListed (← listed (starExpression below))

def yielded : Reader Unit := do
  if ← acceptWord "from" then
    let _ ← below .expression
  else
    let _ ← optional (starExpressions below)

def target : Reader Shape := do
  let starred ← acceptMark "*"
  let shape ← below .primary
  guard shape.target
  return if starred then shape.spread else shape

def targets : Reader Unit := do
  let _ ← listed (target below)

def condition : Reader Bool := do
  if ← acceptWord "if" then
    let _ ← below .logical
    return true
  else return false

def comprehensionClause : Reader Bool := do
  if ← isAtComprehension then
    let _ ← acceptWord "async"
    expectWord "for"
    targets below
    expectWord "in"
    let _ ← below .logical
    let _ ← steps (condition below)
    return true
  else return false

def comprehension (item : Shape) : Reader Unit := do
  guard !item.starred
  let _ ← steps (comprehensionClause below)

def parenthesized : Reader Shape := do
  if ← acceptMark ")" then return .ofItems []
  else if ← acceptWord "yield" then
    yielded below
    expectMark ")"
    return {}
  else
    let first ← element below
    if ← isAtComprehension then
      comprehension below first
      expectMark ")"
      return {}
    else
      let others ← moreItems (element below)
      let comma ← acceptMark ","
      expectMark ")"
      if others = [] ∧ !comma then
        guard !first.starred
        return { first with typed := first.single }
      else return .ofItems (first :: others)

def bracketed : Reader Shape := do
  if ← acceptMark "]" then return .ofItems []
  else
    let first ← element below
    if ← isAtComprehension then
      comprehension below first
      expectMark "]"
      return {}
    else
      let others ← moreItems (element below)
      let _ ← acceptMark ","
      expectMark "]"
      return .ofItems (first :: others)

structure Entry where
  ofTable : Bool
  spread : Bool
  deriving DecidableEq, Repr

def entry : Reader Entry := do
  if ← acceptMark "**" then
    let _ ← below .arithmetic
    return ⟨true, true⟩
  else if ← acceptMark "*" then
    let _ ← below .arithmetic
    return ⟨false, true⟩
  else if ← acceptNameAnd ":=" then
    let _ ← below .expression
    return ⟨false, false⟩
  else
    let _ ← below .expression
    if ← acceptMark ":" then
      let _ ← below .expression
      return ⟨true, false⟩
    else return ⟨false, false⟩

def braced : Reader Unit := do
  unless ← acceptMark "\x7d" do
    let first ← entry below
    if ← isAtComprehension then
      comprehension below { starred := first.spread }
    else
      let others ← moreItems (entry below)
      guard (others.all (·.ofTable = first.ofTable))
      let _ ← acceptMark ","
    expectMark "\x7d"

def isEmbedded (source : List Char) : Bool :=
  ((tokens? ('(' :: source ++ [')'])).bind (starExpressions below)).isSome

def textKind? : Token → Option Bool
  | .text ofBytes => some ofBytes
  | .formatted raw content =>
      if Formatted.holds (isEmbedded below) raw content then some false else none
  | _ => none

def texts : Reader Unit := do
  let tokens ← get
  let kinds ← (tokens.takeWhile Token.isTextLiteral).mapM fun token => textKind? below token
  guard (kinds ≠ [] && kinds.all (some · = kinds.head?))
  set (tokens.dropWhile Token.isTextLiteral)

def atom : Reader Shape := do
  match ← get with
  | .word letters :: rest =>
      set rest
      if isName letters then return .place
      guard (constants.contains letters)
      return {}
  | .number _ :: rest =>
      set rest
      return {}
  | .mark mark :: rest =>
      set rest
      if mark = "(" then parenthesized below
      else if mark = "[" then bracketed below
      else if mark = "\x7b" then
        braced below
        return {}
      else
        guard (mark = "...")
        return {}
  | _ =>
      texts below
      return {}

def slice : Reader Unit := do
  if ← acceptNameAnd ":=" then
    let _ ← below .expression
  else
    unless ← isAtMark ":" do
      let _ ← below .expression
    if ← acceptMark ":" then
      let _ ← optional (below .expression)
      if ← acceptMark ":" then
        let _ ← optional (below .expression)

def subscript : Reader Unit := do
  let _ ← listed do
    if ← acceptMark "*" then
      let _ ← below .expression
    else slice below
  expectMark "]"

def argument : Reader Argument := do
  if ← acceptMark "**" then
    let _ ← below .expression
    return .spreadNames
  else if ← acceptMark "*" then
    let _ ← below .expression
    return .spread
  else if ← acceptNameAnd "=" then
    let _ ← below .expression
    return .named
  else
    let _ ← namedExpression below
    return .plain

def otherArguments (first : Argument) : Reader Unit := do
  let others ← moreItems (argument below)
  guard (Argument.areOrderedBehind [first] others)
  let _ ← acceptMark ","
  expectMark ")"

def called : Reader Unit := do
  unless ← acceptMark ")" do
    let first ← argument below
    if first = .plain ∧ (← isAtComprehension) then
      comprehension below {}
      expectMark ")"
    else otherArguments below first

def bases : Reader Unit := do
  unless ← acceptMark ")" do
    otherArguments below (← argument below)

def trailer : Reader (Option Shape) := do
  if ← acceptMark "." then
    name
    return some .place
  else if ← acceptMark "[" then
    subscript below
    return some .place
  else if ← acceptMark "(" then
    called below
    return some {}
  else return none

/-- An atom and what follows it. No type is given to a part of a place in parentheses. -/
def primary : Reader Shape := do
  let inParentheses ← isAtMark "("
  let first ← atom below
  match (← many (trailer below)).getLast? with
  | none => return first
  | some shape => return { shape with typed := shape.typed && !(inParentheses && first.single) }

def operand : Reader Shape := do
  let signs ← steps (acceptAny signs)
  let awaited ← acceptWord "await"
  let shape ← primary below
  return if signs = 0 ∧ !awaited then shape else {}

/-- Operands with operators between them; which of these hold tighter makes no difference here. -/
def arithmetic : Reader Shape := do
  let first ← operand below
  let others ← steps do
    if ← acceptAny operators then
      let _ ← operand below
      return true
    else return false
  return if others = 0 then first else {}

def comparison : Reader Shape := do
  let denials ← steps (acceptWord "not")
  let first ← arithmetic below
  let others ← steps do
    if ← acceptComparison then
      let _ ← arithmetic below
      return true
    else return false
  return if denials = 0 ∧ others = 0 then first else {}

def logical : Reader Shape := do
  let first ← comparison below
  let others ← steps do
    if ← acceptAny [.keyword "and", .keyword "or"] then
      let _ ← comparison below
      return true
    else return false
  return if others = 0 then first else {}

def parameter (annotated : Bool) : Reader Parameter := do
  if ← acceptMark "/" then return .slash
  else if ← acceptMark "**" then
    name
    annotation
    return .otherNames
  else if ← acceptMark "*" then
    if ← isAtName then
      name
      starAnnotation
      return .others
    else return .star
  else
    name
    annotation
    if ← acceptMark "=" then
      let _ ← below .expression
      return .named true
    else return .named false
where
  annotation : Reader Unit := do
    if annotated && (← isAtMark ":") then
      expectMark ":"
      let _ ← below .expression
  starAnnotation : Reader Unit := do
    if annotated && (← isAtMark ":") then
      expectMark ":"
      let _ ← starExpression below

def parameters (annotated : Bool) : Reader Unit := do
  match ← optional (listed (parameter below annotated)) with
  | some (parameters, _) => guard (Parameter.areOrdered parameters)
  | none => pure ()

def expression : Reader Shape := do
  if ← acceptWord "lambda" then
    parameters below false
    expectMark ":"
    let _ ← below .expression
    return {}
  else
    let value ← logical below
    if ← acceptWord "if" then
      let _ ← logical below
      expectWord "else"
      let _ ← below .expression
      return {}
    else return value

def step : Strength → Reader Shape
  | .primary => primary below
  | .arithmetic => arithmetic below
  | .logical => logical below
  | .expression => expression below

end Parts

/-- Expressions that are nested less deeply than a bound. -/
def nested : (bound : Nat) → Strength → Reader Shape
  | 0, _, _ => none
  | bound + 1, strength, tokens => step (nested bound) strength tokens

end Expression

end FragmentImports.ModuleText
