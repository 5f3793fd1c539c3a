import FragmentImports.ModuleText.Expression

namespace FragmentImports.ModuleText.Pattern

open Reader

def wildcard : Token := .keyword "_"

def capture : Reader Unit := do
  guard !(← isAt wildcard)
  name

def starName : Reader Unit := do
  unless ← accept wildcard do name

def number : Reader Bool := do
  match ← get with
  | .number imaginary :: rest =>
      set rest
      return imaginary
  | _ => failure

def signedNumber : Reader Unit := do
  let _ ← acceptMark "-"
  let imaginary ← number
  if ← acceptAny [.mark "+", .mark "-"] then
    guard (!imaginary && (← number))

def isAtLiteral : Reader Bool := do
  match ← get with
  | .number _ :: _ => return true
  | .word letters :: _ => return constants.contains letters
  | .mark mark :: _ => return mark = "-"
  | token :: _ => return token.isTextLiteral
  | [] => return false

section Parts

variable (expressions : Strength → Reader Shape)

def literal : Reader Unit := do
  match ← get with
  | .word letters :: rest =>
      guard (constants.contains letters)
      set rest
  | .number _ :: _ | .mark _ :: _ => signedNumber
  | _ => Expression.texts expressions

def dottedName : Reader Nat := do
  name
  steps do
    if ← acceptMark "." then
      name
      return true
    else return false

variable (below : Reader Unit)

def item : Reader Bool := do
  if ← acceptMark "*" then
    starName
    return true
  else
    below
    return false

/-- The items of a sequence up to a bracket that closes it. A single one between parentheses is a
pattern of its own, and then stands for one value. -/
def sequence (close : String) : Reader Unit := do
  unless ← acceptMark close do
    let first ← item below
    let others ← moreItems (item below)
    let comma ← acceptMark ","
    guard (close = "]" || others ≠ [] || comma || !first)
    expectMark close

def entry : Reader Bool := do
  if ← acceptMark "**" then
    capture
    return true
  else
    if ← isAtLiteral then literal expressions
    else
      let dots ← dottedName
      guard (0 < dots)
    expectMark ":"
    below
    return false

def table : Reader Unit := do
  unless ← acceptMark "\x7d" do
    let (entries, _) ← listed (entry expressions below)
    guard !entries.dropLast.any id
    expectMark "\x7d"

def namedPart : Reader Unit := do
  guard (← acceptNameAnd "=")
  below

def parts : Reader Unit := do
  unless ← acceptMark ")" do
    unless (← optional (separated (namedPart below))).isSome do
      let _ ← separated below
      let _ ← optional do
        expectMark ","
        separated (namedPart below)
    let _ ← acceptMark ","
    expectMark ")"

def closed : Reader Unit := do
  if ← isAtLiteral then literal expressions
  else if ← accept wildcard then pure ()
  else if ← acceptMark "(" then sequence below ")"
  else if ← acceptMark "[" then sequence below "]"
  else if ← acceptMark "\x7b" then table expressions below
  else
    let _ ← dottedName
    if ← acceptMark "(" then parts below
    else guard !(← isAtMark "=")

def choice : Reader Unit := do
  closed expressions below
  let _ ← steps do
    if ← acceptMark "|" then
      closed expressions below
      return true
    else return false
  if ← acceptWord "as" then capture

end Parts

def nested (expressions : Strength → Reader Shape) : (bound : Nat) → Reader Unit
  | 0, _ => none
  | bound + 1, tokens => choice expressions (nested expressions bound) tokens

def sequenceOrSingle (pattern : Reader Unit) : Reader Unit := do
  let (stars, comma) ← listed (item pattern)
  guard (comma || !stars.any id)

end FragmentImports.ModuleText.Pattern
