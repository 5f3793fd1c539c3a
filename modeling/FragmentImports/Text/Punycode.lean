import FragmentImports.Distinct

/-!
Texts of any characters written with letters, digits and hyphens: the ASCII characters first, then
where the other ones are inserted, as numbers whose digits have adaptive thresholds.
-/

namespace FragmentImports.Punycode

def digitChar (digit : Nat) : Char :=
  Char.ofNat (if digit < 26 then 'a'.toNat + digit else '0'.toNat + digit - 26)

def digit? (c : Char) : Option Nat :=
  if 'a' ≤ c ∧ c ≤ 'z' then some (c.toNat - 'a'.toNat)
  else if 'A' ≤ c ∧ c ≤ 'Z' then some (c.toNat - 'A'.toNat)
  else if c.isDigit then some (c.toNat - '0'.toNat + 26)
  else none

def threshold (place bias : Nat) : Nat := max 1 (min 26 (place - bias))

def scale (delta : Nat) : Nat × Nat :=
  if 455 < delta then
    let (times, rest) := scale (delta / 35)
    (times + 1, rest)
  else (0, delta)
termination_by delta
decreasing_by exact Nat.div_lt_self (by omega) (by omega)

def adapt (delta size : Nat) (isFirst : Bool) : Nat :=
  let halved := if isFirst then delta / 700 else delta / 2
  let (times, rest) := scale (halved + halved / size)
  36 * times + 36 * rest / (rest + 38)

def encodeNumber (bias place number : Nat) : List Char :=
  let least := threshold place bias
  if number < least then [digitChar number]
  else
    digitChar (least + (number - least) % (36 - least))
      :: encodeNumber bias (place + 36) ((number - least) / (36 - least))
termination_by number
decreasing_by
  have positive : 1 ≤ threshold place bias := by unfold threshold; omega
  have quotient := Nat.div_le_self (number - threshold place bias) (36 - threshold place bias)
  omega

structure Encoding where
  output : List Char
  delta : Nat := 0
  bias : Nat := 72
  size : Nat

def Encoding.pass (basic : Nat) (next : Char) (state : Encoding) (c : Char) : Encoding :=
  if c < next then { state with delta := state.delta + 1 }
  else if c = next then
    { output := state.output ++ encodeNumber state.bias 36 state.delta
      delta := 0
      bias := adapt state.delta (state.size + 1) (state.size = basic)
      size := state.size + 1 }
  else state

/-- Inserts characters in ascending order; `least` is the least code point that may come next. -/
def encodeFrom (text : List Char) (basic least : Nat) (state : Encoding) : List Char → List Char
  | [] => state.output
  | next :: rest =>
      let reached := { state with delta := state.delta + (next.toNat - least) * (state.size + 1) }
      let passed := text.foldl (Encoding.pass basic next) reached
      encodeFrom text basic (next.toNat + 1) { passed with delta := passed.delta + 1 } rest

def encode (text : List Char) : List Char :=
  let basic := text.filter fun c => c.toNat < 128
  let others := (distinct (text.filter fun c => 128 ≤ c.toNat)).mergeSort fun a b => a ≤ b
  let start := if basic = [] then [] else basic ++ ['-']
  encodeFrom text basic.length 128 ⟨start, 0, 72, basic.length⟩ others

def readNumber (bias place weight total : Nat) : List Char → Option (Nat × List Char)
  | [] => none
  | c :: rest => do
      let digit ← digit? c
      let least := threshold place bias
      let total := total + digit * weight
      if digit < least then return (total, rest)
      readNumber bias (place + 36) (weight * (36 - least)) total rest

theorem length_of_readNumber {bias place weight total number : Nat} {text rest : List Char}
    (found : readNumber bias place weight total text = some (number, rest)) :
    rest.length < text.length := by
  induction text generalizing place weight total with
  | nil => simp [readNumber] at found
  | cons c others ih =>
      obtain ⟨digit, _, found⟩ := Option.bind_eq_some_iff.1 found
      dsimp only at found
      split at found
      · simp only [Option.pure_def, Option.some.injEq, Prod.mk.injEq] at found
        simp [found.2]
      · have shorter := ih found
        simp only [List.length_cons]
        omega

/-- Inserts the characters that numbers stand for into a text; `place` is the code point reached,
counted in places of the text. -/
def decodeFrom (text : List Char) (isFirst : Bool) (bias codePoint index : Nat)
    (numbers : List Char) : Option (List Char) :=
  if numbers = [] then some text
  else
    match _found : readNumber bias 36 1 0 numbers with
    | none => none
    | some (delta, rest) =>
        let size := text.length + 1
        let codePoint := codePoint + (index + delta) / size
        let index := (index + delta) % size
        if codePoint.isValidChar then
          decodeFrom (text.take index ++ Char.ofNat codePoint :: text.drop index) false
            (adapt delta size isFirst) codePoint (index + 1) rest
        else none
termination_by numbers.length
decreasing_by exact length_of_readNumber _found

def decode? (text : List Char) : Option (List Char) :=
  let back := text.reverse
  let numbers := (back.takeWhile (· ≠ '-')).reverse
  let basic := ((back.dropWhile (· ≠ '-')).drop 1).reverse
  decodeFrom basic true 72 128 0 numbers

end FragmentImports.Punycode
