import FragmentImports.Text.Basic
import FragmentImports.Text.Unprintable

/-!
Quoted literals: a text between quotes with its quotes, backslashes and unprintable characters
escaped.
-/

namespace FragmentImports.Quoted

def escape (quote c : Char) : List Char :=
  if c == quote || c == '\\' then ['\\', c]
  else if c == '\t' then ['\\', 't']
  else if c == '\n' then ['\\', 'n']
  else if c == '\r' then ['\\', 'r']
  else if !isUnprintable c then [c]
  else if c.toNat < 0x100 then '\\' :: 'x' :: Digits.hex 2 c.toNat
  else if c.toNat < 0x10000 then '\\' :: 'u' :: Digits.hex 4 c.toNat
  else '\\' :: 'U' :: Digits.hex 8 c.toNat

/-- Single quotes, unless the text holds some and no double quote. -/
def quoteFor (text : List Char) : Char :=
  if text.contains '\'' && !text.contains '"' then '"' else '\''

def literal (text : List Char) : List Char :=
  let quote := quoteFor text
  quote :: (text.flatMap (escape quote) ++ [quote])

end FragmentImports.Quoted

namespace FragmentImports

def quoted (text : String) : String := String.ofList (Quoted.literal text.toList)

end FragmentImports
