import FragmentImports.Text.Identifier

namespace FragmentImports.ModuleText

inductive Token where
  | word (letters : List Char)
  | number (imaginary : Bool)
  | text (ofBytes : Bool)
  /-- A text with expressions between braces; in a raw one a backslash stands for itself. -/
  | formatted (raw : Bool) (content : List Char)
  | mark (spelling : String)
  | newline
  | indent
  | dedent
  deriving DecidableEq, Repr

def keywords : List (List Char) :=
  ["False", "None", "True", "and", "as", "assert", "async", "await", "break", "class", "continue",
   "def", "del", "elif", "else", "except", "finally", "for", "from", "global", "if", "import", "in",
   "is", "lambda", "nonlocal", "not", "or", "pass", "raise", "return", "try", "while", "with",
   "yield"].map String.toList

def constants : List (List Char) := ["False", "None", "True"].map String.toList

def isName (letters : List Char) : Bool := isIdentifier letters && !keywords.contains letters

def isWordChar (c : Char) : Bool := c.isAlphanum || c = '_' || 128 ≤ c.toNat

namespace Token

/-- A keyword, or a word that is one in some places only. -/
def keyword (letters : String) : Token := .word letters.toList

def isTextLiteral : Token → Bool
  | text _ | formatted _ _ => true
  | _ => false

end Token

end FragmentImports.ModuleText
