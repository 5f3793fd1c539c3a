/-!
Names that look like a misspelt one: those that share enough letters with it in blocks of the
same order.
-/

namespace FragmentImports.Similar

def sharedStart : (a b : List Char) → Nat
  | x :: xs, y :: ys => if x = y then sharedStart xs ys + 1 else 0
  | _, _ => 0

structure Block where
  first : Nat
  second : Nat
  length : Nat
  deriving DecidableEq, Repr

/-- The longest common block; of several the one that starts first in `a`, then in `b`. -/
def longestBlock (a b : List Char) : Block :=
  (List.range a.length).foldl (fun best i =>
    (List.range b.length).foldl (fun best j =>
      let length := sharedStart (a.drop i) (b.drop j)
      if best.length < length then ⟨i, j, length⟩ else best) best) ⟨0, 0, 0⟩

/-- How many letters stand in the longest common block and, in the same way, in front of it and
behind it. -/
def sharedLetters (a b : List Char) : Nat :=
  match longestBlock a b with
  | ⟨i, j, length⟩ =>
      if _found : 0 < length ∧ i < a.length then
        sharedLetters (a.take i) (b.take j) + length
          + sharedLetters (a.drop (i + length)) (b.drop (j + length))
      else 0
termination_by a.length
decreasing_by
  · simp only [List.length_take]
    omega
  · simp only [List.length_drop]
    omega

def areSimilar (a b : String) : Bool :=
  3 * (a.length + b.length) ≤ 10 * sharedLetters a.toList b.toList

/-- Whether `a` shares a greater part of its letters with the word than `b`; of equal ones the
greater text goes first. -/
def goesBefore (word a b : String) : Bool :=
  let left := sharedLetters a.toList word.toList * (b.length + word.length)
  let right := sharedLetters b.toList word.toList * (a.length + word.length)
  right < left || (left = right && decide (b ≤ a))

def names (known : List String) (word : String) : List String :=
  let near := (known.filter (areSimilar · word)).mergeSort (goesBefore word)
  (near.take 3).mergeSort fun a b => !decide (b < a)

end FragmentImports.Similar
