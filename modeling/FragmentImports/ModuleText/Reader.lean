import FragmentImports.ModuleText.Token

/-!
Readers of tokens: what is accepted if it is there, what has to be there, and lists.
-/

namespace FragmentImports.ModuleText

abbrev Reader := StateT (List Token) Option

namespace Reader

def accept (token : Token) : Reader Bool := do
  match ← get with
  | [] => return false
  | next :: rest =>
      if next = token then
        set rest
        return true
      else return false

def acceptMark (spelling : String) : Reader Bool := accept (.mark spelling)

def acceptWord (letters : String) : Reader Bool := accept (.keyword letters)

def acceptAny (tokens : List Token) : Reader Bool := do
  match ← get with
  | [] => return false
  | next :: rest =>
      if tokens.contains next then
        set rest
        return true
      else return false

def expect (token : Token) : Reader Unit := do guard (← accept token)

def expectMark (spelling : String) : Reader Unit := expect (.mark spelling)

def expectWord (letters : String) : Reader Unit := expect (.keyword letters)

def isAt (token : Token) : Reader Bool := do return (← get).head? = some token

def isAtMark (spelling : String) : Reader Bool := isAt (.mark spelling)

def isAtWord (letters : String) : Reader Bool := isAt (.keyword letters)

def isAtName : Reader Bool := do
  match ← get with
  | .word letters :: _ => return isName letters
  | _ => return false

def name : Reader Unit := do
  match ← get with
  | .word letters :: rest =>
      guard (isName letters)
      set rest
  | _ => failure

def acceptNameAnd (spelling : String) : Reader Bool := do
  match ← get with
  | .word letters :: mark :: rest =>
      if isName letters ∧ mark = .mark spelling then
        set rest
        return true
      else return false
  | _ => return false

/-- Takes steps as long as one says that it was taken, and tells their number; there are at most as
many as tokens in `bound`. -/
def stepsWithin (step : Reader Bool) : (bound : List Token) → Reader Nat
  | [] => do
      guard !(← step)
      return 0
  | _ :: bound => do
      if ← step then return (← stepsWithin step bound) + 1
      else return 0

def steps (step : Reader Bool) : Reader Nat := do stepsWithin step (← get)

def manyWithin {α : Type} (item : Reader (Option α)) : (bound : List Token) → Reader (List α)
  | [] => do
      guard (← item).isNone
      return []
  | _ :: bound => do
      match ← item with
      | some value => return value :: (← manyWithin item bound)
      | none => return []

def many {α : Type} (item : Reader (Option α)) : Reader (List α) := do manyWithin item (← get)

def moreItems {α : Type} (item : Reader α) : Reader (List α) :=
  many (optional do expectMark ","; item)

def separated {α : Type} (item : Reader α) : Reader (List α) := do
  return (← item) :: (← moreItems item)

/-- One item or more with commas between them and perhaps one at the end; tells whether there is a
comma. -/
def listed {α : Type} (item : Reader α) : Reader (List α × Bool) := do
  let items ← separated item
  let comma ← acceptMark ","
  return (items, comma || 1 < items.length)

def takesAll (reader : Reader Unit) (tokens : List Token) : Bool :=
  (reader tokens).any fun (_, rest) => rest = []

end Reader

end FragmentImports.ModuleText
