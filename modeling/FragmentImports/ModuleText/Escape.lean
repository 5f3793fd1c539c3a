import FragmentImports.Text.CharacterName
import FragmentImports.Text.Basic

/-!
Escapes in the texts of a Python module. A backslash in front of most characters is right; numbers
have to be whole and those of characters in range, and names have to be those of characters.
-/

namespace FragmentImports.ModuleText

inductive Escape where
  | none
  | begun
  | hex (left value : Nat)
  | naming
  | name (letters : List Char)
  deriving DecidableEq, Repr

namespace Escape

def start (ofBytes : Bool) (c : Char) : Escape :=
  if c = 'x' then .hex 2 0
  else if ofBytes then .none
  else if c = 'u' then .hex 4 0
  else if c = 'U' then .hex 8 0
  else if c = 'N' then .naming
  else .none

def digit (left value : Nat) (c : Char) : Option Escape := do
  let value := 16 * value + (← Digits.hexDigit? c)
  if 1 < left then return .hex (left - 1) value
  guard (value < 0x110000)
  return .none

def step (ofBytes : Bool) (escape : Escape) (c : Char) : Option Escape :=
  match escape with
  | .none => some (if c = '\\' then .begun else .none)
  | .begun => some (start ofBytes c)
  | .hex left value => digit left value c
  | .naming => if c = '\x7b' then some (.name []) else Option.none
  | .name letters =>
      if c = '\x7d' then
        if isCharacterName letters.reverse then some .none else Option.none
      else some (.name (c :: letters))

/-- Whether a text may end here; a backslash at the end stands for itself. -/
def isOver : Escape → Bool
  | .none | .begun => true
  | _ => false

end Escape

def escapesHold (ofBytes : Bool) (text : List Char) : Bool :=
  (text.foldlM (Escape.step ofBytes) .none).any Escape.isOver

end FragmentImports.ModuleText
