import FragmentImports.Text.Basic

/-!
Suggestions for a misspelt name: known names at a small distance, the nearest first.
-/

namespace FragmentImports.Suggestion

/-- The next row of the table of distances: those of the first `i` letters of one word to every
start of the other. `last?` is the letter before `letter`. -/
def nextRow (twoBack oneBack : Array Nat) (other : Array Char) (i : Nat) (last? : Option Char)
    (letter : Char) : Array Nat :=
  (List.range other.size).foldl (fun row j =>
    let facing := other[j]?.getD ' '
    let cost := if letter = facing then 0 else 1
    let deleted := oneBack[j + 1]?.getD 0 + 1
    let inserted := row[j]?.getD 0 + 1
    let plain := min (min deleted inserted) (oneBack[j]?.getD 0 + cost)
    let swapped := 0 < j ∧ some facing = last? ∧ some letter = other[j - 1]?
    row.push (if swapped then min plain (twoBack[j - 1]?.getD 0 + 1) else plain)) #[i]

def distanceFrom (other : Array Char) :
    (twoBack oneBack : Array Nat) → (i : Nat) → (last? : Option Char) → List Char → Nat
  | _, oneBack, _, _, [] => oneBack.back?.getD 0
  | twoBack, oneBack, i, last?, letter :: rest =>
      let row := nextRow twoBack oneBack other i last? letter
      distanceFrom other oneBack row (i + 1) (some letter) rest

def distance (word other : List Char) : Nat :=
  let target := other.toArray
  distanceFrom target #[] (List.range (target.size + 1)).toArray 1 none word

def nameDistance (name other : String) : Nat :=
  let lower (text : String) : List Char := text.toList.map Char.toLower
  if name = other then 0
  else if lower name = lower other then 1
  else distance (lower name) (lower other)

/-- A stretch of digits counts by its value, any other by its characters. -/
inductive Chunk where
  | words (text : String)
  | digits (value : Nat) (text : String)
  deriving DecidableEq

def chunks (text : List Char) : List Chunk :=
  match text with
  | [] => []
  | c :: rest =>
      let same (d : Char) : Bool := d.isDigit == c.isDigit
      let run := c :: rest.takeWhile same
      let spelling := String.ofList run
      let chunk := if c.isDigit then
          Chunk.digits (Digits.decimal run) spelling
        else .words spelling
      chunk :: chunks (rest.dropWhile same)
termination_by text.length
decreasing_by
  exact Nat.lt_succ_of_le (List.dropWhile_sublist _).length_le

def Chunk.compare : Chunk → Chunk → Ordering
  | words a, words b => Ord.compare a b
  | digits a s, digits b t => (Ord.compare a b).then (Ord.compare s t)
  | words a, digits .. => if a = "" then .eq else .gt
  | digits .., words b => if b = "" then .eq else .lt

def compareChunks : List Chunk → List Chunk → Ordering
  | [], [] => .eq
  | [], _ :: _ => .lt
  | _ :: _, [] => .gt
  | a :: as, b :: bs => (a.compare b).then (compareChunks as bs)

def nearest (name : String) (known : List String) : List String :=
  let threshold := name.length * 2 / 5 + 1
  let near := known.eraseDups.filter fun other => nameDistance name other ≤ threshold
  near.mergeSort fun a b =>
    ((Ord.compare (nameDistance name a) (nameDistance name b)).then
      (compareChunks (chunks a.toList) (chunks b.toList))) ≠ .gt

def quoteAll (names : List String) : List String := names.map fun name => "'" ++ name ++ "'"

def question (suggestions : List String) : String :=
  match quoteAll (suggestions.take 5) with
  | [] => ""
  | [one] => " Did you mean " ++ one ++ "?"
  | [one, two] => " Did you mean " ++ one ++ " or " ++ two ++ "?"
  | many => " Did you mean " ++ ", ".intercalate many.dropLast ++ ", or "
      ++ many.getLast?.getD "" ++ "?"

end FragmentImports.Suggestion
