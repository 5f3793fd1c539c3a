import FragmentImports.ModuleText.Token

/-!
The layout of a Python module: how far its lines are indented, and which brackets are open.
-/

namespace FragmentImports.ModuleText

/-- The blanks in front of a line, counted in two ways that have to agree on what stands deeper. -/
structure Margin where
  wide : Nat := 0
  narrow : Nat := 0
  deriving DecidableEq, Repr

namespace Margin

def joined (column : Nat) (margin : Margin) : Margin :=
  if column = 0 then margin else ⟨column, column⟩

/-- The margin of the first line that is not empty, and the text from there; `comment` holds behind
a `#`. At the end of the text the margin is empty. -/
def ofLine? : (comment : Bool) → (column : Nat) → Margin → List Char → Option (Margin × List Char)
  | _, _, _, [] => some ({}, [])
  | _, _, _, '\n' :: rest => ofLine? false 0 {} rest
  | true, column, margin, _ :: rest => ofLine? true column margin rest
  | false, column, margin, ' ' :: rest =>
      ofLine? false column ⟨margin.wide + 1, margin.narrow + 1⟩ rest
  | false, column, margin, '\t' :: rest =>
      ofLine? false column ⟨(margin.wide / 8 + 1) * 8, margin.narrow + 1⟩ rest
  | false, column, _, '\x0c' :: rest => ofLine? false column {} rest
  | false, column, margin, '#' :: rest => ofLine? true column margin rest
  | false, column, margin, '\\' :: '\n' :: rest =>
      if rest = [] then none
      else ofLine? false (if column = 0 then margin.wide else column) margin rest
  | false, _, _, '\\' :: _ => none
  | false, column, margin, rest => some (margin.joined column, rest)

end Margin

structure Layout where
  margins : List Margin := []
  brackets : List Char := []
  deriving DecidableEq, Repr

namespace Layout

def blockBound : Nat := 100

def bracketBound : Nat := 200

def enter (layout : Layout) (margin : Margin) : Option (List Token × Layout) :=
  let current := layout.margins.head?.getD {}
  if current.wide < margin.wide then
    if current.narrow < margin.narrow ∧ layout.margins.length + 1 < blockBound then
      some ([.indent], { layout with margins := margin :: layout.margins })
    else none
  else
    let left := layout.margins.dropWhile fun deeper => margin.wide < deeper.wide
    if left.head?.getD {} = margin then
      some (List.replicate (layout.margins.length - left.length) .dedent,
        { layout with margins := left })
    else none

def nextLine (layout : Layout) (text : List Char) :
    Option (List Token × Layout × List Char) := do
  let (margin, rest) ← Margin.ofLine? false 0 {} text
  let (tokens, layout) ← layout.enter margin
  return (tokens, layout, rest)

def closing : Char → Char
  | '(' => ')'
  | '[' => ']'
  | _ => '\x7d'

def takeMark (layout : Layout) (mark : Char) : Option Layout :=
  if mark = '(' ∨ mark = '[' ∨ mark = '\x7b' then
    if layout.brackets.length < bracketBound then
      some { layout with brackets := mark :: layout.brackets }
    else none
  else if mark = ')' ∨ mark = ']' ∨ mark = '\x7d' then
    match layout.brackets with
    | [] => none
    | inner :: outer =>
        if closing inner = mark then some { layout with brackets := outer } else none
  else some layout

end Layout

end FragmentImports.ModuleText
