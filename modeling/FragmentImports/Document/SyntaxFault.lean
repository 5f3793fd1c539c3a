import FragmentImports.Text.Basic

/-!
Faults in the text of a document: where they are, what they are, and how they are reported.
-/

namespace FragmentImports.Document

inductive TokenKind where
  | endOfInput
  | mark (text : String)
  | name
  | integer
  | float
  | string
  | blockString
  deriving DecidableEq, Repr, Inhabited

namespace TokenKind

def render : TokenKind → String
  | endOfInput => "<EOF>"
  | mark text => "'" ++ text ++ "'"
  | name => "Name"
  | integer => "Int"
  | float => "Float"
  | string => "String"
  | blockString => "BlockString"

end TokenKind

structure Token where
  kind : TokenKind
  value? : Option String
  offset : Nat
  deriving DecidableEq, Repr, Inhabited

namespace Token

def render (token : Token) : String :=
  match token.value? with
  | none => token.kind.render
  | some value => token.kind.render ++ " '" ++ value ++ "'"

end Token

inductive SyntaxCause where
  | unexpectedCharacter (found : Char)
  | singleQuote
  | shortSpread
  | missingWholeDigits (fraction : String)
  | digitAfterZero (found : Char)
  | missingDigit (found? : Option Char)
  | unterminatedString
  | unknownEscape (text : String)
  | badUnicodeEscape (text : String)
  | unexpected (found : Token)
  | expected (what : String) (found : Token)
  | describedShorthand
  | describedOther
  | variableInConstant (name : String)
  | reservedEnumValue (found : Token)
  | tooDeep
  deriving DecidableEq, Repr

def showCharacter (c : Char) : String :=
  if c = '"' then "'\"'"
  else if 32 ≤ c.toNat ∧ c.toNat < 127 then "'" ++ c.toString ++ "'"
  else
    let digits := (Nat.toDigits 16 c.toNat).map Char.toUpper
    "U+" ++ String.ofList (List.replicate (4 - digits.length) '0' ++ digits)

namespace SyntaxCause

def message : SyntaxCause → String
  | unexpectedCharacter found => "Unexpected character: " ++ showCharacter found ++ "."
  | singleQuote =>
      "Unexpected single quote character ('), did you mean to use a double quote (\")?"
  | shortSpread => "Unexpected '..', did you mean '...'?"
  | missingWholeDigits fraction =>
      "Invalid number, expected digit before '.', did you mean '0." ++ fraction ++ "'?"
  | digitAfterZero found =>
      "Invalid number, unexpected digit after 0: " ++ showCharacter found ++ "."
  | missingDigit found? =>
      "Invalid number, expected digit but got: "
        ++ (found?.map showCharacter).getD TokenKind.endOfInput.render ++ "."
  | unterminatedString => "Unterminated string."
  | unknownEscape text => "Invalid character escape sequence: '" ++ text ++ "'."
  | badUnicodeEscape text => "Invalid Unicode escape sequence: '" ++ text ++ "'."
  | unexpected found => "Unexpected " ++ found.render ++ "."
  | expected what found => "Expected " ++ what ++ ", found " ++ found.render ++ "."
  | describedShorthand =>
      "Unexpected description, descriptions are not supported on shorthand queries."
  | describedOther => "Unexpected description, only GraphQL definitions support descriptions."
  | variableInConstant name => "Unexpected variable '$" ++ name ++ "' in constant value."
  | reservedEnumValue found => found.render ++ " is reserved and cannot be used for an enum value."
  | tooDeep => "Document is nested too deeply. Parsing aborted."

end SyntaxCause

structure SyntaxFault where
  offset : Nat
  cause : SyntaxCause
  deriving DecidableEq, Repr

structure Location where
  line : Nat
  column : Nat
  deriving DecidableEq, Repr

def locate (offset line column : Nat) : List Char → Location
  | [] => ⟨line, column + offset⟩
  | '\r' :: '\n' :: rest =>
      if offset = 0 then ⟨line, column⟩
      else if offset = 1 then ⟨line + 1, 0⟩
      else locate (offset - 2) (line + 1) 1 rest
  | c :: rest =>
      if offset = 0 then ⟨line, column⟩
      else if c = '\n' ∨ c = '\r' then locate (offset - 1) (line + 1) 1 rest
      else locate (offset - 1) line (column + 1) rest

def alignMargins (lines : List (String × List Char)) : String :=
  let width := (lines.map fun line => line.1.length).foldl max 0
  "\n".intercalate <| lines.map fun (margin, text) =>
    String.ofList (List.replicate (width - margin.length) ' ') ++ margin
      ++ (if text = [] then "" else " " ++ String.ofList text)

def caret (column : Nat) : List Char := List.replicate (column - 1) ' ' ++ ['^']

def pieces (line : List Char) : List (List Char) :=
  (List.range ((line.length + 79) / 80)).map fun i => (line.drop (80 * i)).take 80

/-- The lines around a place with a caret below it; of a long line the pieces up to the one behind
the place, which is in the last piece if it is behind the line. -/
def excerpt (text : String) (place : Location) : String :=
  let lines := splitLines text.toList
  let index := place.line - 1
  let line := lines[index]?.getD []
  let margin (n : Nat) : String := toString n ++ " |"
  let shown : List (String × List Char) :=
    if 120 < line.length then
      let cut := pieces line
      let last := min ((place.column - 1) / 80) (cut.length - 1)
      let before := (cut.take (last + 1)).zipIdx.map fun (piece, i) =>
        ((if i = 0 then margin place.line else "|"), piece)
      let after := cut[last + 1]?.toList.map fun piece => ("|", piece)
      before ++ ("|", caret (place.column - 80 * last)) :: after
    else
      let above := if index = 0 then [] else [(margin index, lines[index - 1]?.getD [])]
      let below := (lines[index + 1]?.map fun text => (margin (place.line + 1), text)).toList
      above ++ (margin place.line, line) :: ("|", caret place.column) :: below
  alignMargins shown

def placeReport (text : String) (place : Location) : String :=
  "\n\nGraphQL request:" ++ toString place.line ++ ":" ++ toString place.column ++ "\n"
    ++ excerpt text place

structure SyntaxError where
  cause : SyntaxCause
  location : Location
  source : String
  deriving DecidableEq, Repr

namespace SyntaxError

def message (error : SyntaxError) : String := "Syntax Error: " ++ error.cause.message

def report (error : SyntaxError) : String :=
  error.message ++ placeReport error.source error.location

end SyntaxError

def SyntaxFault.inText (fault : SyntaxFault) (text : String) : SyntaxError :=
  ⟨fault.cause, locate fault.offset 1 1 text.toList, text⟩

end FragmentImports.Document
