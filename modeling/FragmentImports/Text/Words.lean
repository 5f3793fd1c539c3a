/-!
Words of an identifier and their conversion to PascalCase, on ASCII letters and digits.
-/

namespace FragmentImports.Words

/-- Separates a capital from the lower-case letter or digit before it. -/
def separateCapitals : List Char → List Char
  | c :: d :: rest =>
      if (c.isLower || c.isDigit) && d.isUpper then c :: ' ' :: d :: separateCapitals rest
      else c :: separateCapitals (d :: rest)
  | short => short

/-- Separates a capitalised word from the capitals before it. -/
def separateAcronyms : List Char → List Char
  | c :: d :: e :: rest =>
      if c.isUpper && d.isUpper && e.isLower then c :: ' ' :: d :: e :: separateAcronyms rest
      else c :: separateAcronyms (d :: e :: rest)
  | short => short

def runs (text : List Char) : List (List Char) :=
  (text.splitOnP fun c => !c.isAlphanum).filter fun run => !run.isEmpty

def split (text : List Char) : List (List Char) :=
  runs (separateAcronyms (separateCapitals text))

def capitalize : List Char → List Char
  | [] => []
  | first :: rest => first.toUpper :: rest.map Char.toLower

def joined (text : List Char) : List Char := ((split text).map capitalize).flatten

/-- PascalCase; unless `dropUnderscores` is set, underscores stay and delimit what is converted. -/
def pascal (dropUnderscores : Bool) (text : List Char) : List Char :=
  if dropUnderscores then joined text
  else ['_'].intercalate ((text.splitOn '_').map joined)

end FragmentImports.Words

namespace FragmentImports

def splitWords (text : String) : List String := (Words.split text.toList).map String.ofList

def pascalCase (text : String) (dropUnderscores : Bool := false) : String :=
  String.ofList (Words.pascal dropUnderscores text.toList)

end FragmentImports
