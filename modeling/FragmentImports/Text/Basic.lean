/-!
What is read from texts everywhere: blanks at both ends, line ends, digits of numbers, bytes in 64
characters, and sets of code points.
-/

namespace FragmentImports

def isBlank (c : Char) : Bool :=
  (9 ≤ c.toNat && c.toNat ≤ 13) || (28 ≤ c.toNat && c.toNat ≤ 32)
    || (8192 ≤ c.toNat && c.toNat ≤ 8202)
    || [133, 160, 5760, 8232, 8233, 8239, 8287, 12288].contains c.toNat

def stripBlanks (text : List Char) : List Char :=
  ((text.dropWhile isBlank).reverse.dropWhile isBlank).reverse

def strip (text : String) : String := String.ofList (stripBlanks text.toList)

def isLineEnd (c : Char) : Bool := c = '\n' || c = '\r'

def unifyNewlines : List Char → List Char
  | '\r' :: '\n' :: rest => '\n' :: unifyNewlines rest
  | '\r' :: rest => '\n' :: unifyNewlines rest
  | c :: rest => c :: unifyNewlines rest
  | [] => []

def decodeText (bytes : ByteArray) : Option String :=
  (String.fromUTF8? bytes).map fun text => String.ofList (unifyNewlines text.toList)

def splitLines (text : List Char) : List (List Char) := (unifyNewlines text).splitOn '\n'

namespace Digits

def decimal (digits : List Char) : Nat :=
  digits.foldl (fun total c => 10 * total + (c.toNat - 48)) 0

def hexDigit? (c : Char) : Option Nat :=
  if c.isDigit then some (c.toNat - 48)
  else if 'a' ≤ c ∧ c ≤ 'f' then some (c.toNat - 87)
  else if 'A' ≤ c ∧ c ≤ 'F' then some (c.toNat - 55)
  else none

def hexadecimal? (digits : List Char) : Option Nat :=
  digits.foldl (fun total c => do return 16 * (← total) + (← hexDigit? c)) (some 0)

/-- The last `width` hexadecimal digits of a number, in lower case. -/
def hex (width n : Nat) : List Char :=
  (List.range width).map fun i => Nat.digitChar ((n >>> (4 * (width - 1 - i))) % 16)

end Digits

/-! Bytes written in 64 characters: three bytes make four of them. -/

namespace Base64

def characters : List Char :=
  "ABCDEFGHIJKLMNOPQRSTUVWXYZabcdefghijklmnopqrstuvwxyz0123456789+/".toList

def character (bits : Nat) : Char := characters.getD (bits % 64) '='

def encode : List UInt8 → List Char
  | [] => []
  | [a] =>
      let bits := a.toNat <<< 4
      [character (bits >>> 6), character bits, '=', '=']
  | [a, b] =>
      let bits := (a.toNat <<< 10) + (b.toNat <<< 2)
      [character (bits >>> 12), character (bits >>> 6), character bits, '=']
  | a :: b :: c :: rest =>
      let bits := (a.toNat <<< 16) + (b.toNat <<< 8) + c.toNat
      character (bits >>> 18) :: character (bits >>> 12) :: character (bits >>> 6)
        :: character bits :: encode rest

end Base64

/-- A code point belongs when an odd number of boundaries lies at or below it. -/
def withinBoundaries (boundaries : List Nat) (codePoint : Nat) : Bool :=
  (boundaries.countP fun boundary => boundary ≤ codePoint) % 2 == 1

end FragmentImports
