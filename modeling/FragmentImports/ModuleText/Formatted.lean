import FragmentImports.ModuleText.Escape
import FragmentImports.ModuleText.Layout

/-!
Texts with expressions between braces. A doubled brace is a brace. An expression may go on with
`=`, with a conversion and with a format, in which there may be expressions too.
-/

namespace FragmentImports.ModuleText.Formatted

def isBrace (c : Char) : Bool := c = '\x7b' || c = '\x7d'

inductive Place where
  | plain
  | escape
  | name
  deriving DecidableEq, Repr

def Place.behind (place : Place) (raw : Bool) (c : Char) (rest : List Char) : Place :=
  match place with
  | .plain => if c = '\\' && !raw && !rest.head?.any isBrace then .escape else .plain
  | .escape => if c = 'N' && rest.head? = some '\x7b' then .name else .plain
  | .name => if c = '\x7d' then .plain else .name

def literal (raw : Bool) : Place → List Char → List Char × List Char
  | _, [] => ([], [])
  | place, c :: rest =>
      if place = .plain ∧ isBrace c then ([], c :: rest)
      else
        let (inner, behind) := literal raw (place.behind raw c rest) rest
        (c :: inner, behind)

structure Quotes where
  quote : Char
  triple : Bool
  deriving DecidableEq, Repr

def ends : List Char := [':', '!', '=', '\x7d']

def startsComparison (c : Char) (rest : List Char) : Bool :=
  ['!', '=', '<', '>'].contains c && rest.head? = some '='

/-- The expression at the start of a text, and what stands behind it; `skip` characters belong to
the quotes or to the comparison in front of them. Neither a backslash nor a comment is allowed. -/
def expression? :
    (skip : Nat) → Option Quotes → (brackets : List Char) → List Char →
      Option (List Char × List Char)
  | _, _, _, [] => none
  | skip + 1, quotes?, brackets, c :: rest => taken c (expression? skip quotes? brackets rest)
  | 0, some quotes, brackets, c :: rest =>
      if c = '\\' then none
      else if c = quotes.quote ∧ (!quotes.triple ∨ [c, c].isPrefixOf rest) then
        taken c (expression? (if quotes.triple then 2 else 0) none brackets rest)
      else taken c (expression? 0 (some quotes) brackets rest)
  | 0, none, brackets, c :: rest =>
      if c = '\\' ∨ c = '#' then none
      else if c = '\'' ∨ c = '"' then
        let triple := [c, c].isPrefixOf rest
        taken c (expression? (if triple then 2 else 0) (some ⟨c, triple⟩) brackets rest)
      else if startsComparison c rest then taken c (expression? 1 none brackets rest)
      else if brackets = [] ∧ ends.contains c then some ([], c :: rest)
      else do
        let layout ← ({ brackets } : Layout).takeMark c
        taken c (expression? 0 none layout.brackets rest)
where
  taken (c : Char) (rest? : Option (List Char × List Char)) : Option (List Char × List Char) :=
    rest?.map fun (inner, behind) => (c :: inner, behind)

def isEmpty (source : List Char) : Bool :=
  source.all fun c => c = ' ' || c = '\t' || c = '\n' || c = '\x0c'

def behindEquals : List Char → List Char
  | '=' :: rest =>
      rest.dropWhile fun c => c = ' ' || c = '\t' || c = '\n' || c = '\x0b' || c = '\x0c'
  | rest => rest

def behindConversion? : List Char → Option (List Char)
  | '!' :: c :: rest => if c = 's' ∨ c = 'r' ∨ c = 'a' then some rest else none
  | ['!'] => none
  | rest => some rest

/-- Expressions stand at most in the format of an expression, and not in a format there. -/
def depthBound : Nat := 2

/-- What stands from the brace that ends a format, or nothing at the end of the whole text, which
has depth zero; every expression takes two characters, so a `bound` above their number suffices. -/
def behindPieces? (isExpression : List Char → Bool) (raw : Bool) :
    (bound depth : Nat) → List Char → Option (List Char)
  | 0, _, _ => none
  | bound + 1, depth, text => do
      let (piece, rest) := literal raw .plain text
      guard (raw || escapesHold false piece)
      match rest with
      | [] => return []
      | brace :: rest =>
          if depth = 0 ∧ rest.head? = some brace then
            behindPieces? isExpression raw bound depth (rest.drop 1)
          else if brace = '\x7d' then
            guard (0 < depth)
            return brace :: rest
          else
            guard (depth < depthBound)
            let (source, rest) ← expression? 0 none [] rest
            guard (!isEmpty source && isExpression source)
            let rest ← match ← behindConversion? (behindEquals rest) with
              | ':' :: format => behindPieces? isExpression raw bound (depth + 1) format
              | rest => some rest
            match rest with
            | '\x7d' :: rest => behindPieces? isExpression raw bound depth rest
            | _ => none

def holds (isExpression : List Char → Bool) (raw : Bool) (content : List Char) : Bool :=
  behindPieces? isExpression raw (content.length + 1) 0 content = some []

end FragmentImports.ModuleText.Formatted
