import FragmentImports.ModuleText.Token
import FragmentImports.Text.Basic

/-!
Numbers of a Python module: digits that single underscores may part, perhaps with a base in front
or with a fraction, an exponent and the mark of an imaginary number behind.
-/

namespace FragmentImports.ModuleText.Number

/-- What follows digits; one has to come where it is `due`, first and behind an underscore. -/
def behindDigits? (isDigit : Char → Bool) : (due : Bool) → List Char → Option (List Char)
  | due, [] => if due then none else some []
  | due, c :: rest =>
      if isDigit c then behindDigits? isDigit false rest
      else if due then none
      else if c = '_' then behindDigits? isDigit true rest
      else some (c :: rest)

/-- What a number may touch: no word, unless it is a keyword that can stand behind a number. -/
def mayEnd : List Char → Bool
  | [] => true
  | rest@(c :: _) =>
      !isWordChar c
        || ["and", "else", "for", "if", "in", "is", "or", "not"].any fun word =>
          word.toList.isPrefixOf rest

def ending (imaginary : Bool) (rest : List Char) : Option (Bool × List Char) :=
  if mayEnd rest then some (imaginary, rest) else none

def imaginaryEnding : List Char → Option (Bool × List Char)
  | 'j' :: rest | 'J' :: rest => ending true rest
  | rest => ending false rest

def signless : List Char → List Char
  | '+' :: rest | '-' :: rest => rest
  | rest => rest

def behindExponent? : List Char → Option (List Char)
  | 'e' :: rest | 'E' :: rest => behindDigits? Char.isDigit true (signless rest)
  | _ => none

def fraction (text : List Char) : Option (Bool × List Char) := do
  let rest ← if text.head?.any Char.isDigit then behindDigits? Char.isDigit true text else text
  imaginaryEnding ((behindExponent? rest).getD rest)

/-- More digits than this are refused in a decimal number that is whole. -/
def wholeDigits : Nat := 4300

def isWhole (digits : List Char) : Bool :=
  digits.all (· = '0') || (digits.head? ≠ some '0' && digits.length ≤ wholeDigits)

def decimal (text : List Char) : Option (Bool × List Char) := do
  match ← behindDigits? Char.isDigit true text with
  | '.' :: rest => fraction rest
  | rest =>
      match behindExponent? rest with
      | some rest => imaginaryEnding rest
      | none =>
          let (imaginary, behind) ← imaginaryEnding rest
          let digits := (text.takeWhile fun c => c.isDigit || c = '_').filter (· ≠ '_')
          guard (imaginary || isWhole digits
            || (digits.head? = some '0' && rest.head? = some 'e'))
          return (imaginary, behind)

def inBase (isDigit : Char → Bool) (text : List Char) : Option (Bool × List Char) :=
  let digits := match text with
    | '_' :: rest => rest
    | _ => text
  (behindDigits? isDigit true digits).bind (ending false)

def isOctal (c : Char) : Bool := '0' ≤ c && c ≤ '7'

def isBinary (c : Char) : Bool := c = '0' || c = '1'

def read? : List Char → Option (Bool × List Char)
  | '.' :: rest => fraction rest
  | '0' :: c :: rest =>
      if c = 'x' ∨ c = 'X' then inBase (fun c => (Digits.hexDigit? c).isSome) rest
      else if c = 'o' ∨ c = 'O' then inBase isOctal rest
      else if c = 'b' ∨ c = 'B' then inBase isBinary rest
      else decimal ('0' :: c :: rest)
  | text => decimal text

end FragmentImports.ModuleText.Number
