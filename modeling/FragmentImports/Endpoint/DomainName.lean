import FragmentImports.Text.Composition
import FragmentImports.Text.Direction
import FragmentImports.Text.DomainLetter
import FragmentImports.Text.Joining
import FragmentImports.Text.Punycode

/-!
International domain names: which labels they may have, and how the labels are written in ASCII.
-/

namespace FragmentImports.Endpoint.DomainName

inductive Fault where
  | malformed
  | letter
  | context
  | direction
  deriving DecidableEq, Repr

def follows (mayJoin : Joining → Bool) (text : List Char) : Bool :=
  let next := text.dropWhile fun c => Joining.of c = .transparent
  next.head?.any fun c => mayJoin (.of c)

def isGreek (c : Char) : Bool :=
  withinBoundaries [881, 995, 1011, 1072, 7462, 7467, 7936, 8204, 43877, 43878] c.toNat

def isHebrew (c : Char) : Bool := withinBoundaries [1425, 1552, 64286, 65056] c.toNat

def isKanaOrHan (c : Char) : Bool :=
  c ≠ '\u30fb' && withinBoundaries
    [12293, 12294, 12295, 12330, 12353, 12441, 12445, 12539, 12541, 12549, 12784, 40960, 64014,
     64286, 94179, 94180, 94192, 94208, 110576, 110960, 131072] c.toNat

def isArabicDigit (c : Char) : Bool := '\u0660' ≤ c && c ≤ '\u0669'

def isExtendedArabicDigit (c : Char) : Bool := '\u06f0' ≤ c && c ≤ '\u06f9'

/-- Whether a character that needs a context has it; what is in front of it comes latest first. -/
def contextRule? (before : List Char) (c : Char) (rest : List Char) : Option Bool :=
  let stillsVowel := before.head?.any fun mark => combiningClass mark = viramaClass
  match c with
  | '\u200c' =>
      some (stillsVowel || (follows Joining.joinsNext before && follows Joining.joinsPrevious rest))
  | '\u200d' => some stillsVowel
  | '\u00b7' => some (before.head? = some 'l' && rest.head? = some 'l')
  | '\u0375' => some (rest.head?.any isGreek)
  | '\u05f3' | '\u05f4' => some (before.head?.any isHebrew)
  | '\u30fb' => some ((before ++ rest).any isKanaOrHan)
  | _ =>
      if isArabicDigit c then some (!(before ++ rest).any isExtendedArabicDigit)
      else if isExtendedArabicDigit c then some (!(before ++ rest).any isArabicDigit)
      else none

def checkLetters (before : List Char) : List Char → Except Fault Unit
  | [] => .ok ()
  | c :: rest =>
      match contextRule? before c rest with
      | some false => .error .context
      | some true => checkLetters (c :: before) rest
      | none => if isDomainLetter c then checkLetters (c :: before) rest else .error .letter

/-- A label with letters from right to left has one direction and one kind of digits, and ends with
a letter or digit apart from marks. -/
def isDirected (label : List Char) : Bool :=
  let directions := label.map Direction.of
  let ending? := directions.reverse.find? (· ≠ .mark)
  if !directions.any fun d => d = .rightToLeft || d = .arabicDigit then true
  else match directions.head? with
    | some .rightToLeft =>
        !directions.contains .leftToRight
          && !(directions.contains .arabicDigit && directions.contains .europeanDigit)
          && ending?.any fun d => d = .rightToLeft || d = .europeanDigit || d = .arabicDigit
    | _ => false

def maximalLabel : Nat := 63
def maximalName : Nat := 253
def maximalInput : Nat := 254

def checkLabel (label : List Char) : Except Fault Unit := do
  let hasOuterHyphen := label.head? = some '-' || label.getLast? = some '-'
  let hasMarker := (label.drop 2).take 2 = ['-', '-']
  if label = [] ∨ maximalInput < label.length ∨ !Composition.isComposed label ∨ hasMarker
      ∨ hasOuterHyphen ∨ label.head?.any isMark then
    throw .malformed
  checkLetters [] label
  unless isDirected label do throw .direction

def asciiMarker : List Char := "xn--".toList

def checkAscii (label : List Char) : Except Fault Unit :=
  if asciiMarker.isPrefixOf label then
    let written := label.drop asciiMarker.length
    if written = [] ∨ written.getLast? = some '-' then .error .malformed
    else match Punycode.decode? written with
      | some text => checkLabel text
      | none => .error .malformed
  else checkLabel label

def isAscii (text : List Char) : Bool := text.all fun c => c.toNat < 128

def encodeLabel (label : List Char) : Except Fault (List Char) := do
  let written ←
    if isAscii label then do
      checkAscii label
      pure label
    else do
      checkLabel label
      pure (asciiMarker ++ Punycode.encode label)
  if maximalLabel < written.length then throw .malformed
  return written

def isDot (c : Char) : Bool := ['.', '\u3002', '\uff0e', '\uff61'].contains c

def labels (name : List Char) : List (List Char) :=
  let parts := name.splitOnP isDot
  if parts.getLast? = some [] then parts.dropLast else parts

def encode (name : List Char) : Except Fault (List Char) := do
  if maximalInput < name.length ∨ labels name = [] then throw .malformed
  let written := ['.'].intercalate (← (labels name).mapM encodeLabel)
  if maximalName < written.length then throw .malformed
  return if name.getLast?.any isDot then written ++ ['.'] else written

def check (name : List Char) : Except Fault Unit := do
  if maximalInput < name.length ∨ labels name = [] then throw .malformed
  (labels name).forM checkAscii

end FragmentImports.Endpoint.DomainName
