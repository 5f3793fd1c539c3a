import FragmentImports.Text.Utf8

/-!
Encodings of texts as bytes, and how a text in one of them shows which it is: by a mark at its
start or by the places of its first zeros.
-/

namespace FragmentImports

inductive ByteOrder where
  | lowFirst
  | highFirst
  deriving DecidableEq, Repr

inductive Encoding where
  | bytes
  | pairs (order : ByteOrder)
  | quadruples (order : ByteOrder)
  deriving DecidableEq, Repr

namespace Encoding

/-- The encoding of some bytes that start with a text in ASCII, judged by their zeros. -/
def ofZeros : List UInt8 → Encoding
  | first :: second :: third :: fourth :: _ =>
      if first = 0 then if second = 0 then quadruples .highFirst else pairs .highFirst
      else if second ≠ 0 then bytes
      else if third = 0 ∧ fourth = 0 then quadruples .lowFirst
      else pairs .lowFirst
  | [first, second] =>
      if first = 0 then pairs .highFirst else if second = 0 then pairs .lowFirst else bytes
  | _ => bytes

def detect : List UInt8 → Encoding × List UInt8
  | 0x00 :: 0x00 :: 0xFE :: 0xFF :: rest => (quadruples .highFirst, rest)
  | 0xFF :: 0xFE :: 0x00 :: 0x00 :: rest => (quadruples .lowFirst, rest)
  | 0xFE :: 0xFF :: rest => (pairs .highFirst, rest)
  | 0xFF :: 0xFE :: rest => (pairs .lowFirst, rest)
  | 0xEF :: 0xBB :: 0xBF :: rest => (bytes, rest)
  | text => (ofZeros text, text)

def number (order : ByteOrder) (bytes : List UInt8) : Nat :=
  let highFirst := match order with
    | .lowFirst => bytes.reverse
    | .highFirst => bytes
  highFirst.foldl (fun total byte => 256 * total + byte.toNat) 0

def units16? (order : ByteOrder) : List UInt8 → Option (List Nat)
  | [] => some []
  | a :: b :: rest => (units16? order rest).map (number order [a, b] :: ·)
  | _ => none

def units32? (order : ByteOrder) : List UInt8 → Option (List Nat)
  | [] => some []
  | a :: b :: c :: d :: rest => (units32? order rest).map (number order [a, b, c, d] :: ·)
  | _ => none

def isHighHalf (unit : Nat) : Bool := 0xD800 ≤ unit && unit < 0xDC00

def isLowHalf (unit : Nat) : Bool := 0xDC00 ≤ unit && unit < 0xE000

/-- A code point; a half of one becomes the replacement character. -/
def charOf (codePoint : Nat) : Char :=
  if codePoint.isValidChar then Char.ofNat codePoint else '\ufffd'

def joinPairs : List Nat → List Char
  | high :: low :: rest =>
      if isHighHalf high && isLowHalf low then
        Char.ofNat (0x10000 + 0x400 * (high - 0xD800) + (low - 0xDC00)) :: joinPairs rest
      else charOf high :: joinPairs (low :: rest)
  | [unit] => [charOf unit]
  | [] => []

def text? (encoding : Encoding) (text : List UInt8) : Option String :=
  match encoding with
  | bytes => String.fromUTF8? ⟨text.toArray⟩
  | pairs order => (units16? order text).map fun units => String.ofList (joinPairs units)
  | quadruples order => do
      let codePoints ← units32? order text
      if codePoints.any (0x110000 ≤ ·) then failure
      return String.ofList (codePoints.map charOf)

end Encoding

def textOfBytes? (text : List UInt8) : Option String :=
  let (encoding, rest) := Encoding.detect text
  encoding.text? rest

end FragmentImports
