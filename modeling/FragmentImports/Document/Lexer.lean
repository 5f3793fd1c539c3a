import FragmentImports.Document.SyntaxFault
import FragmentImports.Text.Basic

/-!
Tokens of a GraphQL document. White space, commas, byte order marks and comments separate tokens
and are skipped.
-/

namespace FragmentImports.Document

def isIgnored (c : Char) : Bool :=
  c = ' ' || c = '\t' || c = ',' || c = '\ufeff' || c = '\n' || c = '\r'

def isNameStart (c : Char) : Bool := c.isAlpha || c = '_'

def isNameContinue (c : Char) : Bool := c.isAlphanum || c = '_'

def marks : List Char := ['!', '$', '&', '(', ')', ':', '=', '@', '[', ']', '\x7b', '|', '\x7d']

namespace Lexer

/-- What is found at a place with the characters that it takes, or a fault relative to the place. -/
abbrev Scan := Except SyntaxFault

def digits (position : Nat) (text : List Char) : Scan (List Char) :=
  let found := text.takeWhile Char.isDigit
  if found = [] then .error ⟨position, .missingDigit text.head?⟩ else .ok found

def wholeDigits (position : Nat) : List Char → Scan (List Char)
  | '0' :: rest => match rest.head? with
      | some c => if c.isDigit then .error ⟨position + 1, .digitAfterZero c⟩ else .ok ['0']
      | none => .ok ['0']
  | text => digits position text

def fraction (position : Nat) : List Char → Scan (List Char)
  | '.' :: rest => do return '.' :: (← digits (position + 1) rest)
  | _ => .ok []

def exponent (position : Nat) (text : List Char) : Scan (List Char) :=
  let start := text.take 1
  if start = ['e'] ∨ start = ['E'] then
    let sign := (text.drop 1).take 1
    let start := if sign = ['+'] ∨ sign = ['-'] then start ++ sign else start
    do return start ++ (← digits (position + start.length) (text.drop start.length))
  else .ok []

def number (text : List Char) : Scan (Token × Nat) := do
  let sign := if text.head? = some '-' then ['-'] else []
  let whole ← wholeDigits sign.length (text.drop sign.length)
  let spelling := sign ++ whole
  let places ← fraction spelling.length (text.drop spelling.length)
  let spelling := spelling ++ places
  let power ← exponent spelling.length (text.drop spelling.length)
  let spelling := spelling ++ power
  let next := (text.drop spelling.length).head?
  if next.any fun c => c = '.' || isNameStart c then throw ⟨spelling.length, .missingDigit next⟩
  let kind := if places = [] ∧ power = [] then TokenKind.integer else .float
  return (⟨kind, some (String.ofList spelling), 0⟩, spelling.length)

def isScalarValue (code : Nat) : Bool := code < 0xD800 || (0xDFFF < code && code < 0x110000)

def bracedEscape (text : List Char) : Scan (Char × Nat) :=
  let window := (text.take 12).drop 3
  let inside := window.takeWhile fun c => (Digits.hexDigit? c).isSome
  let size := min (3 + inside.length + 1) (min 12 text.length)
  let bad := SyntaxFault.mk 0 (.badUnicodeEscape (String.ofList (text.take size)))
  match window[inside.length]?, Digits.hexadecimal? inside with
  | some '\x7d', some code =>
      if inside ≠ [] ∧ isScalarValue code then .ok (Char.ofNat code, size) else .error bad
  | _, _ => .error bad

def plainEscape (text : List Char) : Scan (Char × Nat) :=
  let bad := SyntaxFault.mk 0 (.badUnicodeEscape (String.ofList (text.take 6)))
  let unit? (digits : List Char) : Option Nat :=
    if digits.length < 4 then none else Digits.hexadecimal? (digits.take 4)
  match unit? (text.drop 2), unit? (text.drop 8) with
  | none, _ => .error bad
  | some high, low? =>
      if isScalarValue high then .ok (Char.ofNat high, 6)
      else match low? with
        | none => .error bad
        | some low =>
            if high < 0xDC00 ∧ (text.drop 6).take 2 = ['\\', 'u'] ∧ 0xDC00 ≤ low ∧ low ≤ 0xDFFF then
              .ok (Char.ofNat (0x10000 + (high - 0xD800) * 0x400 + (low - 0xDC00)), 12)
            else .error bad

def escape (text : List Char) : Scan (Char × Nat) :=
  match text with
  | _ :: 'u' :: '\x7b' :: _ => bracedEscape text
  | _ :: 'u' :: _ => plainEscape text
  | _ :: '"' :: _ => .ok ('"', 2)
  | _ :: '/' :: _ => .ok ('/', 2)
  | _ :: '\\' :: _ => .ok ('\\', 2)
  | _ :: 'b' :: _ => .ok ('\x08', 2)
  | _ :: 'f' :: _ => .ok ('\x0c', 2)
  | _ :: 'n' :: _ => .ok ('\n', 2)
  | _ :: 'r' :: _ => .ok ('\r', 2)
  | _ :: 't' :: _ => .ok ('\t', 2)
  | _ => .error ⟨0, .unknownEscape (String.ofList (text.take 2))⟩

def stringContent (position : Nat) (text : List Char) : Scan (List Char × Nat) :=
  match text with
  | [] => .error ⟨position, .unterminatedString⟩
  | '"' :: _ => .ok ([], position + 1)
  | '\\' :: rest =>
      match escape ('\\' :: rest) with
      | .error fault => .error ⟨position + fault.offset, fault.cause⟩
      | .ok (c, size) => do
          let (content, finish) ← stringContent (position + size) (rest.drop (size - 1))
          return (c :: content, finish)
  | c :: rest =>
      if isLineEnd c then .error ⟨position, .unterminatedString⟩
      else do
        let (content, finish) ← stringContent (position + 1) rest
        return (c :: content, finish)
termination_by text.length
decreasing_by all_goals (simp only [List.length_cons, List.length_drop]; omega)

/-- The raw content of a block string, where only an escaped closing mark is replaced, and the
characters up to its closing mark, with the mark. -/
def blockContent (position : Nat) : List Char → Scan (List Char × Nat)
  | '"' :: '"' :: '"' :: _ => .ok ([], position + 3)
  | '\\' :: '"' :: '"' :: '"' :: rest => do
      let (content, finish) ← blockContent (position + 4) rest
      return ('"' :: '"' :: '"' :: content, finish)
  | c :: rest => do
      let (content, finish) ← blockContent (position + 1) rest
      return (c :: content, finish)
  | [] => .error ⟨position, .unterminatedString⟩

def isIndent (c : Char) : Bool := c = ' ' || c = '\t'

def indentOf (line : List Char) : Nat := (line.takeWhile isIndent).length

/-- Drops the blank lines around a block string and the indent common to all lines but the first. -/
def dedent (lines : List (List Char)) : List (List Char) :=
  let isFilled (line : List Char) : Bool := indentOf line < line.length
  let common := ((lines.drop 1).filter isFilled).map indentOf |>.min?.getD 0
  let cut := lines.take 1 ++ (lines.drop 1).map (List.drop common)
  let isBlank (line : List Char) : Bool := !isFilled line
  ((cut.dropWhile isBlank).reverse.dropWhile isBlank).reverse

def blockText (content : List Char) : String :=
  String.ofList (['\n'].intercalate (dedent (splitLines content)))

def point (text : List Char) : Scan (Token × Nat) :=
  match text with
  | '.' :: '.' :: '.' :: _ => .ok (⟨.mark "...", none, 0⟩, 3)
  | '.' :: '.' :: _ => .error ⟨0, .shortSpread⟩
  | _ =>
      let places := (text.drop 1).takeWhile Char.isDigit
      if places = [] then .error ⟨0, .unexpectedCharacter '.'⟩
      else .error ⟨0, .missingWholeDigits (String.ofList places)⟩

/-- The token at the start of a text, which begins with a character that is not ignored. -/
def token (first : Char) (rest : List Char) : Scan (Token × Nat) :=
  let text := first :: rest
  if first ∈ marks then .ok (⟨.mark first.toString, none, 0⟩, 1)
  else if first = '.' then point text
  else if first = '"' then
    match rest with
    | '"' :: '"' :: content => do
        let (content, finish) ← blockContent 3 content
        return (⟨.blockString, some (blockText content), 0⟩, finish)
    | _ => do
        let (content, finish) ← stringContent 1 rest
        return (⟨.string, some (String.ofList content), 0⟩, finish)
  else if first.isDigit || first = '-' then number text
  else if isNameStart first then
    let spelling := text.takeWhile isNameContinue
    .ok (⟨.name, some (String.ofList spelling), 0⟩, spelling.length)
  else if first = '\'' then .error ⟨0, .singleQuote⟩
  else .error ⟨0, .unexpectedCharacter first⟩

def tokensFrom (offset : Nat) : List Char → List (Except SyntaxFault Token)
  | [] => [.ok ⟨.endOfInput, none, offset⟩]
  | first :: rest =>
      if isIgnored first then tokensFrom (offset + 1) rest
      else if first = '#' then
        let comment := rest.takeWhile fun c => !isLineEnd c
        tokensFrom (offset + 1 + comment.length) (rest.drop comment.length)
      else match token first rest with
        | .error fault => [.error ⟨offset + fault.offset, fault.cause⟩]
        | .ok (found, size) =>
            .ok { found with offset := offset } ::
              tokensFrom (offset + size) (rest.drop (size - 1))
termination_by text => text.length
decreasing_by all_goals (simp only [List.length_cons, List.length_drop]; omega)

end Lexer

def tokens (text : String) : List (Except SyntaxFault Token) := Lexer.tokensFrom 0 text.toList

end FragmentImports.Document
