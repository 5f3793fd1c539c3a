/-!
Binary floating-point numbers of 64 bits as exact values: reading a decimal rounds to the nearest,
writing finds the fewest digits that read back.
-/

namespace FragmentImports

/-- A finite number is `mantissa * 2 ^ exponent`, with the mantissa below `2 ^ 53`. -/
inductive Binary64 where
  | finite (negative : Bool) (mantissa : Nat) (exponent : Int)
  | infinite (negative : Bool)
  | notANumber
  deriving DecidableEq, Repr

namespace Binary64

def roundQuotient (num den : Nat) : Nat :=
  let whole := num / den
  let twice := 2 * (num % den)
  if twice < den ∨ (twice = den ∧ whole % 2 = 0) then whole else whole + 1

def scale (base : Nat) (exponent : Int) (num den : Nat) : Nat × Nat :=
  if 0 ≤ exponent then (num * base.pow exponent.toNat, den)
  else (num, den * base.pow (-exponent).toNat)

/-- The largest `e` with `2 ^ e` at most the positive quotient. -/
def binaryOrder (num den : Nat) : Int :=
  let estimate : Int := (Nat.log2 num : Int) - (Nat.log2 den : Int)
  let (n, d) := scale 2 (-estimate) num den
  if d ≤ n then estimate else estimate - 1

def ofQuotient (negative : Bool) (num den : Nat) : Binary64 :=
  if num = 0 then .finite negative 0 0
  else
    let exponent := max (-1074) (binaryOrder num den - 52)
    let (n, d) := scale 2 (-exponent) num den
    let mantissa := roundQuotient n d
    let (mantissa, exponent) :=
      if mantissa = 1 <<< 53 then (1 <<< 52, exponent + 1) else (mantissa, exponent)
    if mantissa = 0 then .finite negative 0 0
    else if 971 < exponent then .infinite negative
    else .finite negative mantissa exponent

def ofDecimal (negative : Bool) (digits : Nat) (exponent : Int) : Binary64 :=
  let width : Int := (Nat.toDigits 10 digits).length
  if digits = 0 ∨ width + exponent < -330 then .finite negative 0 0
  else if 330 < width + exponent then .infinite negative
  else
    let (num, den) := scale 10 exponent digits 1
    ofQuotient negative num den

def decimalOrder (num den : Nat) : Int :=
  let estimate : Int :=
    ((Nat.toDigits 10 num).length : Int) - ((Nat.toDigits 10 den).length : Int)
  let (n, d) := scale 10 (-estimate) num den
  if d ≤ n then estimate else estimate - 1

def neighbours (num den : Nat) (exponent : Int) : List Nat :=
  let (n, d) := scale 10 (-exponent) num den
  let below := n / d
  if 2 * (n % d) ≤ d then [below, below + 1] else [below + 1, below]

/-- Digits and exponent of the shortest decimal that reads back as the number. -/
def shortest (mantissa : Nat) (exponent : Int) : Nat × Int :=
  let (num, den) := scale 2 exponent mantissa 1
  let order := decimalOrder num den
  let candidates := (List.range 17).flatMap fun (extra : Nat) =>
    let unit := order - (extra : Nat)
    (neighbours num den unit).map fun digits => (digits, unit)
  (candidates.find? fun candidate =>
    ofDecimal false candidate.1 candidate.2 = .finite false mantissa exponent).getD (mantissa, 0)

def dropTrailingZeros (digits : List Char) : List Char :=
  (digits.reverse.dropWhile (· = '0')).reverse

/-- Writes digits with the point behind `point` of them; from 10^16 on and below 10^-4 an exponent
of two digits or more follows. -/
def place (digits : List Char) (point : Int) : List Char :=
  if -4 < point ∧ point ≤ 16 then
    if point ≤ 0 then '0' :: '.' :: (List.replicate (-point).toNat '0' ++ digits)
    else
      let cut := point.toNat
      let fraction := digits.drop cut
      digits.take cut ++ List.replicate (cut - digits.length) '0'
        ++ '.' :: (if fraction = [] then ['0'] else fraction)
  else
    let power := point - 1
    let magnitude := Nat.toDigits 10 power.natAbs
    digits.take 1 ++ (if digits.length ≤ 1 then [] else '.' :: digits.drop 1)
      ++ 'e' :: (if power < 0 then '-' else '+')
      :: (List.replicate (2 - magnitude.length) '0' ++ magnitude)

structure SpecialNames where
  infinity : String
  notANumber : String

def render (names : SpecialNames) : Binary64 → String
  | .notANumber => names.notANumber
  | .infinite negative => (if negative then "-" else "") ++ names.infinity
  | .finite negative mantissa exponent =>
      let text :=
        if mantissa = 0 then "0.0"
        else
          let (digits, unit) := shortest mantissa exponent
          let all := Nat.toDigits 10 digits
          String.ofList (place (dropTrailingZeros all) (unit + all.length))
      (if negative then "-" else "") ++ text

def isZero : Binary64 → Bool
  | .finite _ mantissa _ => mantissa = 0
  | _ => false

def toInt? : Binary64 → Option Int
  | .finite negative mantissa exponent =>
      let (num, den) := scale 2 exponent mantissa 1
      if num % den = 0 then
        some (if negative then -(num / den : Nat) else (num / den : Nat))
      else none
  | _ => none

end Binary64

end FragmentImports
