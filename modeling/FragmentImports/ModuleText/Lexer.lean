import FragmentImports.ModuleText.Escape
import FragmentImports.ModuleText.Layout
import FragmentImports.ModuleText.Number
import FragmentImports.Text.Basic

namespace FragmentImports.ModuleText

/-- Marks, each in front of those that it starts with. -/
def marks : List String :=
  ["**=", "//=", "<<=", ">>=", "...", "!=", "%=", "&=", "**", "*=", "+=", "-=", "->", "//", "/=",
   ":=", "<<", "<=", "==", ">=", ">>", "@=", "^=", "|=", "%", "&", "(", ")", "*", "+", ",", "-",
   ".", "/", ":", ";", "<", "=", ">", "@", "[", "]", "^", "\x7b", "|", "\x7d", "~"]

structure TextKind where
  formatted : Bool := false
  raw : Bool := false
  ofBytes : Bool := false
  deriving DecidableEq, Repr

namespace TextKind

def ofLetters? (letters : List Char) : Option TextKind :=
  match letters.map Char.toLower with
  | [] | ['u'] => some {}
  | ['r'] => some { raw := true }
  | ['b'] => some { ofBytes := true }
  | ['b', 'r'] | ['r', 'b'] => some { ofBytes := true, raw := true }
  | ['f'] => some { formatted := true }
  | ['f', 'r'] | ['r', 'f'] => some { formatted := true, raw := true }
  | _ => none

def token? (kind : TextKind) (content : List Char) : Option Token :=
  if kind.formatted then some (.formatted kind.raw content)
  else if (kind.ofBytes && content.any fun c => 128 ≤ c.toNat)
      || !(kind.raw || escapesHold kind.ofBytes content) then none
  else some (.text kind.ofBytes)

end TextKind

def upToQuote (quote : Char) : List Char → Option (List Char × List Char)
  | [] => none
  | '\\' :: c :: rest => (upToQuote quote rest).map fun (inner, rest) => ('\\' :: c :: inner, rest)
  | c :: rest =>
      if c = quote then some ([], rest)
      else if c = '\n' then none
      else (upToQuote quote rest).map fun (inner, rest) => (c :: inner, rest)

def upToTripleQuote (quote : Char) : List Char → Option (List Char × List Char)
  | [] => none
  | '\\' :: c :: rest =>
      (upToTripleQuote quote rest).map fun (inner, rest) => ('\\' :: c :: inner, rest)
  | c :: rest =>
      if [quote, quote, quote].isPrefixOf (c :: rest) then some ([], rest.drop 2)
      else (upToTripleQuote quote rest).map fun (inner, rest) => (c :: inner, rest)

def content? (quote : Char) (text : List Char) : Option (List Char × List Char) :=
  if [quote, quote].isPrefixOf text then upToTripleQuote quote (text.drop 2)
  else upToQuote quote text

def wordOrText? (text : List Char) : Option (Token × List Char) :=
  let letters := text.takeWhile isWordChar
  let behind := text.dropWhile isWordChar
  match TextKind.ofLetters? letters, behind with
  | some kind, quote :: rest =>
      if quote = '"' ∨ quote = '\'' then do
        let (content, rest) ← content? quote rest
        return (← kind.token? content, rest)
      else word letters behind
  | _, _ => word letters behind
where
  word (letters behind : List Char) : Option (Token × List Char) :=
    if letters.all (·.toNat < 128) || isIdentifier letters then some (.word letters, behind)
    else none

def token? (text : List Char) : Option (Token × List Char) :=
  match text with
  | [] => none
  | c :: rest =>
      if c.isDigit || (c = '.' && rest.head?.any Char.isDigit) then
        (Number.read? text).map fun (imaginary, rest) => (.number imaginary, rest)
      else if isWordChar c || c = '"' || c = '\'' then wordOrText? text
      else do
        let mark ← marks.find? fun mark => mark.toList.isPrefixOf text
        return (.mark mark, text.drop mark.length)

/-- The tokens of a text from inside a line on; every step takes a character, so a `bound` above
their number suffices. -/
def tokensFrom : (bound : Nat) → Layout → List Char → Option (List Token)
  | 0, _, _ => none
  | _ + 1, layout, [] => if layout.brackets = [] then some [] else none
  | bound + 1, layout, c :: rest =>
      if c = ' ' ∨ c = '\t' ∨ c = '\x0c' then tokensFrom bound layout rest
      else if c = '#' then tokensFrom bound layout (rest.dropWhile (· ≠ '\n'))
      else if c = '\n' then
        if layout.brackets ≠ [] then tokensFrom bound layout rest
        else do
          let (tokens, layout, rest) ← layout.nextLine rest
          return .newline :: tokens ++ (← tokensFrom bound layout rest)
      else if c = '\\' then
        match rest with
        | '\n' :: next :: more => tokensFrom bound layout (next :: more)
        | _ => none
      else do
        let (token, rest) ← token? (c :: rest)
        return token :: (← tokensFrom bound (← layout.takeMark c) rest)

def completed (text : List Char) : List Char :=
  let ended := match text.reverse with
    | '\n' :: '\r' :: _ => false
    | '\n' :: _ | '\r' :: _ => true
    | _ => false
  unifyNewlines text ++ if ended then [] else ['\n']

def tokens? (text : List Char) : Option (List Token) := do
  let text := completed text
  let (tokens, layout, rest) ← ({} : Layout).nextLine text
  return tokens ++ (← tokensFrom (text.length + 1) layout rest)

end FragmentImports.ModuleText
