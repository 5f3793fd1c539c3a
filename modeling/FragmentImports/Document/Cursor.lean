import FragmentImports.Document.Lexer

/-!
A position in a stream of tokens and the readers that move it. A fault in the stream is raised when
the position would move onto it.
-/

namespace FragmentImports.Document

structure DirectivePlace where
  offset : Nat
  values : List Nat
  deriving DecidableEq, Repr

structure Cursor where
  current : Token
  ahead : List (Except SyntaxFault Token)
  /-- The directives read since these were last taken, the latest first. -/
  directives : List DirectivePlace := []

abbrev Reader := StateT Cursor (Except SyntaxFault)

namespace Reader

def fail {α : Type} (offset : Nat) (cause : SyntaxCause) : Reader α := throw ⟨offset, cause⟩

def current : Reader Token := do return (← get).current

def isAt (kind : TokenKind) : Reader Bool := do return (← current).kind = kind

def isAtMark (text : String) : Reader Bool := isAt (.mark text)

def advance : Reader Unit := do
  match (← get).ahead with
  | [] => pure ()
  | .ok next :: rest => modify fun cursor => { cursor with current := next, ahead := rest }
  | .error fault :: _ => throw fault

def following : Reader Token := do
  match (← get).ahead with
  | [] => current
  | .ok next :: _ => return next
  | .error fault :: _ => throw fault

def unexpectedToken {α : Type} (found : Token) : Reader α := fail found.offset (.unexpected found)

def unexpected {α : Type} : Reader α := do unexpectedToken (← current)

def expect (kind : TokenKind) : Reader Token := do
  let found ← current
  if found.kind = kind then
    advance
    return found
  else fail found.offset (.expected kind.render found)

def expectMark (text : String) : Reader Unit := do
  let _ ← expect (.mark text)

def name : Reader String := do return (← expect .name).value?.getD ""

def acceptMark (text : String) : Reader Bool := do
  if ← isAtMark text then
    advance
    return true
  else return false

def isAtKeyword (word : String) : Reader Bool := do
  let found ← current
  return found.kind = .name && found.value? = some word

def acceptKeyword (word : String) : Reader Bool := do
  if ← isAtKeyword word then
    advance
    return true
  else return false

def expectKeyword (word : String) : Reader Unit := do
  unless ← acceptKeyword word do
    let found ← current
    fail found.offset (.expected ("'" ++ word ++ "'") found)

def noteDirective (place : DirectivePlace) : Reader Unit :=
  modify fun cursor => { cursor with directives := place :: cursor.directives }

def takeDirectives : Reader (List DirectivePlace) := do
  let noted := (← get).directives
  modify fun cursor => { cursor with directives := [] }
  return noted.reverse

/-- An upper bound of the tokens that can still be taken. -/
def remaining : Reader Nat := do return (← get).ahead.length + 2

/-- Items up to a closing mark, which is taken; every item takes a token, so `bound` suffices. -/
def itemsUntil {α : Type} (close : String) (item : Reader α) : (bound : Nat) → Reader (List α)
  | 0 => unexpected
  | bound + 1 => do
      if ← acceptMark close then return []
      let first ← item
      return first :: (← itemsUntil close item bound)

def between {α : Type} (start : String) (item : Reader α) (close : String) : Reader (List α) := do
  expectMark start
  itemsUntil close item (← remaining)

def someBetween {α : Type} (start : String) (item : Reader α) (close : String) :
    Reader (List α) := do
  expectMark start
  let first ← item
  return first :: (← itemsUntil close item (← remaining))

def optionalBetween {α : Type} (start : String) (item : Reader α) (close : String) :
    Reader (List α) := do
  if ← isAtMark start then someBetween start item close else return []

def moreSeparated {α : Type} (mark : String) (item : Reader α) : (bound : Nat) → Reader (List α)
  | 0 => unexpected
  | bound + 1 => do
      if ← acceptMark mark then
        let next ← item
        return next :: (← moreSeparated mark item bound)
      else return []

def separated {α : Type} (mark : String) (item : Reader α) : Reader (List α) := do
  let _ ← acceptMark mark
  let first ← item
  return first :: (← moreSeparated mark item (← remaining))

def whileAt {α : Type} (mark : String) (item : Reader α) : (bound : Nat) → Reader (List α)
  | 0 => unexpected
  | bound + 1 => do
      if ← isAtMark mark then
        let next ← item
        return next :: (← whileAt mark item bound)
      else return []

def run {α : Type} (reader : Reader α) (text : String) : Except SyntaxError α :=
  let outcome := match tokens text with
    | .ok first :: ahead => (StateT.run reader { current := first, ahead }).map Prod.fst
    | .error fault :: _ => .error fault
    | [] => .error ⟨0, .unterminatedString⟩
  outcome.mapError fun fault => fault.inText text

end Reader

end FragmentImports.Document
