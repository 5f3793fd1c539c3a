import FragmentImports.Json

/-!
Reading JSON texts. Infinities and NaN are accepted; how deep a text may nest and how long its
numbers may be is up to a dialect.
-/

namespace FragmentImports.Json

inductive ReadFault where
  | malformed
  | longNumber
  | tooDeep
  deriving DecidableEq, Repr

structure Dialect where
  depth : Nat
  loneHalves : Bool
  fits : (negative isWhole : Bool) → (digits : Nat) → Bool

abbrev Reader (α : Type) := List Char → Except ReadFault (α × List Char)

def malformed {α : Type} : Except ReadFault α := .error .malformed

/-- What has to be there in a well-formed text. -/
def wellFormed {α : Type} : Option α → Except ReadFault α
  | some found => .ok found
  | none => malformed

def isSpace (c : Char) : Bool := c = ' ' || c = '\t' || c = '\n' || c = '\r'

def skipSpace (text : List Char) : List Char := text.dropWhile isSpace

def codeUnit? : List Char → Option (Nat × List Char)
  | a :: b :: c :: d :: rest => (Digits.hexadecimal? [a, b, c, d]).map fun unit => (unit, rest)
  | _ => none

def isHighSurrogate (unit : Nat) : Bool := 0xD800 ≤ unit && unit < 0xDC00

def isLowSurrogate (unit : Nat) : Bool := 0xDC00 ≤ unit && unit < 0xE000

def pair? (high : Nat) : List Char → Option (Char × List Char)
  | '\\' :: 'u' :: rest => do
      let (low, rest) ← codeUnit? rest
      if isLowSurrogate low then
        some (Char.ofNat (0x10000 + (high - 0xD800) * 0x400 + (low - 0xDC00)), rest)
      else none
  | _ => none

/-- What follows `\u`: a code unit, or two that form a pair. A lone half becomes the replacement
character where `loneHalves` are let through. -/
def unicodeEscape? (loneHalves : Bool) (text : List Char) : Option (Char × List Char) := do
  let (unit, rest) ← codeUnit? text
  let alone? := if loneHalves then some ('\ufffd', rest) else none
  if isHighSurrogate unit then pair? unit rest <|> alone?
  else if isLowSurrogate unit then alone?
  else some (Char.ofNat unit, rest)

def escape? (loneHalves : Bool) : List Char → Option (Char × List Char)
  | '"' :: rest => some ('"', rest)
  | '\\' :: rest => some ('\\', rest)
  | '/' :: rest => some ('/', rest)
  | 'b' :: rest => some ('\x08', rest)
  | 'f' :: rest => some ('\x0c', rest)
  | 'n' :: rest => some ('\n', rest)
  | 'r' :: rest => some ('\r', rest)
  | 't' :: rest => some ('\t', rest)
  | 'u' :: rest => unicodeEscape? loneHalves rest
  | _ => none

def characters? (loneHalves : Bool) (text : List Char) : Option (List Char × List Char) :=
  match text with
  | [] => none
  | '"' :: rest => some ([], rest)
  | '\\' :: rest =>
      match escape? loneHalves rest with
      | none => none
      | some (c, after) =>
          if _h : after.length < rest.length then
            (characters? loneHalves after).map fun (cs, more) => (c :: cs, more)
          else none
  | c :: rest =>
      if c.toNat < 32 then none
      else (characters? loneHalves rest).map fun (cs, more) => (c :: cs, more)
termination_by text.length
decreasing_by all_goals simp_all <;> omega

def digits? (text : List Char) : Option (List Char × List Char) :=
  let digits := text.takeWhile Char.isDigit
  if digits = [] then none else some (digits, text.dropWhile Char.isDigit)

def wholeDigits? : List Char → Option (List Char × List Char)
  | '0' :: rest => some (['0'], rest)
  | text => digits? text

def fractionDigits? : List Char → Option (List Char × List Char)
  | '.' :: rest => digits? rest
  | _ => none

def exponent? : List Char → Option (Int × List Char)
  | e :: rest =>
      if e ≠ 'e' ∧ e ≠ 'E' then none
      else
        let (negative, rest) := match rest with
          | '-' :: more => (true, more)
          | '+' :: more => (false, more)
          | _ => (false, rest)
        (digits? rest).map fun (digits, more) =>
          ((if negative then -(Digits.decimal digits : Int) else Digits.decimal digits), more)
  | [] => none

def unsignedNumber (dialect : Dialect) (negative : Bool) : Reader Json := fun text => do
  let (whole, rest) ← wellFormed (wholeDigits? text)
  let fraction? := fractionDigits? rest
  let rest := (fraction?.map Prod.snd).getD rest
  let exponent? := exponent? rest
  let rest := (exponent?.map Prod.snd).getD rest
  let isWhole := fraction?.isNone && exponent?.isNone
  unless dialect.fits negative isWhole whole.length do throw .longNumber
  if isWhole then
    let size : Int := Digits.decimal whole
    return (.integer (if negative then -size else size), rest)
  else
    let places := (fraction?.map Prod.fst).getD []
    let power := (exponent?.map Prod.fst).getD 0
    let digits := Digits.decimal (whole ++ places)
    return (.float (.ofDecimal negative digits (power - places.length)), rest)

def startsWith? (start text : List Char) : Option (List Char) :=
  if start.isPrefixOf text then some (text.drop start.length) else none

def word (spelling : String) (value : Json) : Reader Json := fun text => do
  return (value, ← wellFormed (startsWith? spelling.toList text))

def numberOrWord (dialect : Dialect) : Reader Json := fun text =>
  match text with
  | 'n' :: _ => word "null" .null text
  | 't' :: _ => word "true" (.boolean true) text
  | 'f' :: _ => word "false" (.boolean false) text
  | 'N' :: _ => word "NaN" (.float .notANumber) text
  | 'I' :: _ => word "Infinity" (.float (.infinite false)) text
  | '-' :: 'I' :: _ => word "-Infinity" (.float (.infinite true)) text
  | '-' :: rest => unsignedNumber dialect true rest
  | _ => unsignedNumber dialect false text

def separated {α : Type} (element : Reader α) (close : Char) (text : List Char) :
    Except ReadFault (List α × List Char) :=
  match element (skipSpace text) with
  | .error fault => .error fault
  | .ok (first, after) =>
      match skipSpace after with
      | [] => malformed
      | mark :: rest =>
          if mark = close then .ok ([first], rest)
          else if mark = ',' then
            if _h : rest.length < text.length then
              (separated element close rest).map fun (others, more) => (first :: others, more)
            else malformed
          else malformed
termination_by text.length

def enclosed {α : Type} (element : Reader α) (close : Char) : Reader (List α) := fun text =>
  match skipSpace text with
  | [] => malformed
  | mark :: rest => if mark = close then .ok ([], rest) else separated element close text

def member (dialect : Dialect) (value : Reader Json) : Reader (String × Json)
  | '"' :: rest => do
      let (key, rest) ← wellFormed (characters? dialect.loneHalves rest)
      match skipSpace rest with
      | ':' :: rest =>
          let (found, rest) ← value (skipSpace rest)
          return ((String.ofList key, found), rest)
      | _ => malformed
  | _ => malformed

def valueOf (dialect : Dialect) (part : Reader Json) : Reader Json := fun text => do
  match text with
  | '"' :: rest =>
      let (found, rest) ← wellFormed (characters? dialect.loneHalves rest)
      return (.string (String.ofList found), rest)
  | '[' :: rest =>
      let (items, rest) ← enclosed part ']' rest
      return (.array items, rest)
  | '\x7b' :: rest =>
      let (members, rest) ← enclosed (member dialect part) '\x7d' rest
      return (.object members, rest)
  | _ => numberOrWord dialect text

/-- A value whose parts lie at most `depth` levels deep. -/
def value (dialect : Dialect) : (depth : Nat) → Reader Json
  | 0 => valueOf dialect fun _ => .error .tooDeep
  | depth + 1 => valueOf dialect (value dialect depth)

def parse (dialect : Dialect) (text : String) : Except ReadFault Json := do
  let (found, rest) ← value dialect dialect.depth (skipSpace text.toList)
  if skipSpace rest = [] then return found else malformed

end FragmentImports.Json
