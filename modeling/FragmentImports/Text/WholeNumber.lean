import FragmentImports.Text.Basic

/-!
Whole numbers written with the decimal digits of any script (Unicode 14.0), where a sign, blanks
around the number and single underscores between its digits are allowed.
-/

namespace FragmentImports.WholeNumber

/-- The zeros of all scripts; the other nine digits follow each of them. -/
def zeros : List Nat :=
  [48, 1632, 1776, 1984, 2406, 2534, 2662, 2790, 2918, 3046, 3174, 3302, 3430, 3558, 3664, 3792,
   3872, 4160, 4240, 6112, 6160, 6470, 6608, 6784, 6800, 6992, 7088, 7232, 7248, 42528, 43216,
   43264, 43472, 43504, 43600, 44016, 65296, 66720, 68912, 69734, 69872, 69942, 70096, 70384, 70736,
   70864, 71248, 71360, 71472, 71904, 72016, 72784, 73040, 73120, 92768, 92864, 93008, 120782,
   120792, 120802, 120812, 120822, 123200, 123632, 125264, 130032]

def digit? (c : Char) : Option Nat :=
  (zeros.find? fun start => start ≤ c.toNat && c.toNat < start + 10).map fun start =>
    c.toNat - start

def digits? : List Char → Option (List Nat)
  | [] => none
  | [last] => (digit? last).map fun digit => [digit]
  | c :: '_' :: rest => do return (← digit? c) :: (← digits? rest)
  | c :: rest => do return (← digit? c) :: (← digits? rest)

def maximalDigits : Nat := 4300

def unsigned? (text : List Char) : Option Nat := do
  let digits ← digits? text
  if maximalDigits < digits.length then failure
  return digits.foldl (fun total digit => 10 * total + digit) 0

def read? (text : List Char) : Option Int :=
  match stripBlanks text with
  | '-' :: rest => (unsigned? rest).map fun size => -size
  | '+' :: rest => (unsigned? rest).map fun size => size
  | rest => (unsigned? rest).map fun size => size

end FragmentImports.WholeNumber
