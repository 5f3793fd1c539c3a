import FragmentImports.Document.Value

/-!
Printing literal values. Texts are quoted as they were written, on one line or as a block; lists and
objects that do not fit on a line have a line for each part.
-/

namespace FragmentImports.Document

namespace Printer

def hexadecimal4 (code : Nat) : List Char :=
  let digits := (Nat.toDigits 16 code).map Char.toUpper
  List.replicate (4 - digits.length) '0' ++ digits

def escaped (c : Char) : List Char :=
  match c with
  | '"' => ['\\', '"']
  | '\\' => ['\\', '\\']
  | '\x08' => ['\\', 'b']
  | '\t' => ['\\', 't']
  | '\n' => ['\\', 'n']
  | '\x0c' => ['\\', 'f']
  | '\r' => ['\\', 'r']
  | c =>
      if c.toNat < 0x20 ∨ (0x7f ≤ c.toNat ∧ c.toNat < 0xa0) then
        ['\\', 'u'] ++ hexadecimal4 c.toNat
      else [c]

def quoted (content : String) : String :=
  String.ofList (['"'] ++ content.toList.flatMap escaped ++ ['"'])

def guardQuotes : List Char → List Char
  | '"' :: '"' :: '"' :: rest => '\\' :: '"' :: '"' :: '"' :: guardQuotes rest
  | c :: rest => c :: guardQuotes rest
  | [] => []

def isLineBreak (c : Char) : Bool :=
  ['\n', '\x0b', '\x0c', '\r', '\x1c', '\x1d', '\x1e', '\u0085', '\u2028', '\u2029'].contains c

def isSpace (c : Char) : Bool := c = ' ' || c = '\t'

/-- Whether every line but the first is indented or empty, and there is one. -/
def hasOnlyIndented (content : List Char) : Bool :=
  let ends := (content.zip (content.drop 1)).filter fun pair => isLineBreak pair.1
  content.dropLast.any isLineBreak && ends.all fun pair => isSpace pair.2 || isLineBreak pair.2

/-- A block of one line stays on it, unless it is long or its end could be taken for its mark. -/
def block (content : String) : String :=
  let text := content.toList
  let body := guardQuotes text
  let isSingle := !body.dropLast.any isLineBreak
  let endsInMark := ['"', '"', '"', '\\'].isPrefixOf body.reverse
  let closes := (text.getLast? = some '"' && !endsInMark) || text.getLast? = some '\\'
  let leads := hasOnlyIndented body
  let isSpread := !isSingle || 70 < text.length || closes || leads || endsInMark
  let staysUp := isSingle && text.head?.any isSpace
  let before := if (isSpread && !staysUp) || leads then ['\n'] else []
  let after := if isSpread || closes then ['\n'] else []
  let mark := ['"', '"', '"']
  String.ofList (mark ++ before ++ body ++ after ++ mark)

def indented (text : String) : String :=
  "  " ++ String.ofList (text.toList.flatMap fun c => if c = '\n' then ['\n', ' ', ' '] else [c])

def enclosed (opening closing space : String) (parts : List String) : String :=
  let line := opening ++ space ++ ", ".intercalate parts ++ space ++ closing
  if 80 < line.length then
    opening ++ "\n" ++ indented ("\n".intercalate parts) ++ "\n" ++ closing
  else line

end Printer

def Scalar.render : Scalar → String
  | reference variableName => "$" ++ variableName
  | integer spelling => spelling
  | float spelling => spelling
  | string content false => Printer.quoted content
  | string content true => Printer.block content
  | boolean value => if value then "true" else "false"
  | null => "null"
  | enum name => name

namespace Value

mutual

def render : Value → String
  | scalar leaf => leaf.render
  | list items => Printer.enclosed "[" "]" "" (renderItems items)
  | object fields => Printer.enclosed "\x7b" "\x7d" " " (renderFields fields)

def renderItems : List Value → List String
  | [] => []
  | item :: rest => item.render :: renderItems rest

def renderFields : List (String × Value) → List String
  | [] => []
  | (name, item) :: rest => (name ++ ": " ++ item.render) :: renderFields rest

end

end Value

end FragmentImports.Document
